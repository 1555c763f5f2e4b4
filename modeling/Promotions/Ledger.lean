import Promotions.Bill
import Promotions.Document
import Promotions.Json.Record
import Promotions.Resolution
import Promotions.Usage

/-!
# The usage ledger

The ledger counts uses of promotions: in all, by day and by member. Evaluation reads counts; a bill
that is settled adds to them, one counter after the other. Each counter is added to in one step,
and only below its limit, so however the steps of several bills come between one another, no counter
passes its limit.
-/

namespace Promotions

/-- What uses are counted by. -/
inductive UsageScope where
  /-- All uses. -/
  | total
  /-- The uses of a day. -/
  | day (date : Date)
  /-- The uses of a member. -/
  | customer (member : MemberId)
  deriving DecidableEq

instance : JsonCodec UsageScope where
  toJson
    | .total => .obj [("scope", .str "total")]
    | .day date => Json.tagged "scope" "key" "day" (toJson date)
    | .customer member => Json.tagged "scope" "key" "customer" (toJson member)
  readJson? reading j :=
    match Json.tagged? reading "scope" "key" ["total", "day", "customer"] j with
    | some ("total", key) => if Json.isBare key then some .total else none
    | some ("day", some key) => (readJson? reading key).map .day
    | some ("customer", some key) => (readJson? reading key).map .customer
    | _ => none

/-- A counter of the ledger. -/
structure Counter where
  /-- The promotion. -/
  promotion : PromotionId
  /-- What its uses are counted by. -/
  scope : UsageScope
  deriving DecidableEq

/-- A counter with the limit it has to stay within, if there is one. -/
structure LimitedCounter where
  /-- The counter. -/
  counter : Counter
  /-- The limit. -/
  limit : Option Count
  deriving DecidableEq

/-- The counts of all counters. -/
structure Ledger where
  /-- The count of a counter. -/
  count : Counter → Count

namespace Ledger

/-- The ledger in which nothing was counted. -/
def empty : Ledger := ⟨fun _ => 0⟩

instance : Inhabited Ledger := ⟨empty⟩

/-- The ledger with the count of a counter set. -/
def set (l : Ledger) (c : Counter) (n : Count) : Ledger :=
  ⟨fun c' => if c' = c then n else l.count c'⟩

@[simp] theorem count_set_self (l : Ledger) (c : Counter) (n : Count) :
    (l.set c n).count c = n := by
  simp [set]

@[simp] theorem count_set_of_ne (l : Ledger) {c c' : Counter} (n : Count) (h : c' ≠ c) :
    (l.set c n).count c' = l.count c' := by
  simp [set, h]

/-- The ledger with one more use counted, unless the counter has reached its limit. -/
def increment? (l : Ledger) (c : LimitedCounter) : Option Ledger :=
  if c.limit.all fun limit => decide (l.count c.counter < limit) then
    some (l.set c.counter (Count.addSat (l.count c.counter) 1))
  else none

/-- How often the promotion of a document has been used, as a bill sees it. Uses that had been
counted when the document was compiled count too. -/
def usageOf (l : Ledger) (bill : Bill) (d : Document) : Usage where
  total := max (l.count ⟨d.id, .total⟩) d.limits.currentUses
  today := l.count ⟨d.id, .day bill.localTime.date⟩
  byCustomer :=
    match bill.member with
    | some member => l.count ⟨d.id, .customer member.id⟩
    | none => 0

/-- How often the promotions with a limit have been used, as a bill sees it. -/
def snapshot (l : Ledger) (documents : List Document) (bill : Bill) : UsageFacts :=
  let limited := documents.filter fun d => !d.limits.isUnlimited
  .ofList (limited.map fun d => (d.id, l.usageOf bill d))

end Ledger

/-! ## Recording -/

/-- What came of recording the promotions applied to a bill. -/
structure Redemption where
  /-- The promotions that were counted by every counter. -/
  recorded : List PromotionId := []
  /-- The promotions that were not, with the scope that was full. -/
  refused : List (PromotionId × UsageScope) := []
  deriving DecidableEq

/-- The counters of a promotion for a bill, in the order in which they are added to. -/
def Document.counters (d : Document) (bill : Bill) : List LimitedCounter :=
  [⟨⟨d.id, .total⟩, d.limits.maxUses⟩,
   ⟨⟨d.id, .day bill.localTime.date⟩, d.limits.maxUsesPerDay⟩] ++
    match bill.member with
    | some member => [⟨⟨d.id, .customer member.id⟩, d.limits.maxUsesPerCustomer⟩]
    | none => []

/-- A promotion that is being counted, with the counters still to be added to. -/
structure Redeeming where
  /-- The promotion. -/
  promotion : PromotionId
  /-- The counters. -/
  counters : List LimitedCounter

/-- How far the recording of a bill has come. -/
structure Recording where
  /-- The promotions still to be counted. -/
  pending : List Redeeming
  /-- What came of the others. -/
  redemption : Redemption := {}

namespace Recording

/-- The start of recording promotions. One without a document is passed over. -/
def start (documents : List Document) (bill : Bill) (applied : List PromotionId) : Recording where
  pending := applied.filterMap fun id =>
    (documents.find? fun d => d.id = id).map fun d => ⟨d.id, d.counters bill⟩

/-- The number of steps that are left at most. -/
def size (r : Recording) : Nat := r.pending.foldr (fun p steps => p.counters.length + 1 + steps) 0

/-- One step of recording: a counter is added to, or the promotion in front is done with. A counter
that is full ends its promotion, and what was counted for that stays counted. -/
def step (l : Ledger) (r : Recording) : Ledger × Recording :=
  match r.pending with
  | [] => (l, r)
  | p :: rest =>
    match p.counters with
    | [] =>
      (l,
        { pending := rest
          redemption := { r.redemption with recorded := r.redemption.recorded ++ [p.promotion] } })
    | c :: counters =>
      match l.increment? c with
      | some l => (l, { r with pending := { p with counters } :: rest })
      | none =>
        let refused := r.redemption.refused ++ [(p.promotion, c.counter.scope)]
        (l, { pending := rest, redemption := { r.redemption with refused } })

theorem size_step_lt {l : Ledger} {r : Recording} (h : r.pending ≠ []) :
    (step l r).2.size < r.size := by
  obtain ⟨pending, redemption⟩ := r
  cases pending with
  | nil => exact absurd rfl h
  | cons p rest =>
    obtain ⟨promotion, counters⟩ := p
    cases counters with
    | nil => simp [step, size]
    | cons c counters =>
      simp only [step]
      split
      · simp [size]
      · simp [size]

/-- All steps of a recording, with nothing between them. -/
def run (l : Ledger) (r : Recording) : Ledger × Redemption :=
  if h : r.pending = [] then (l, r.redemption)
  else
    have := size_step_lt (l := l) h
    run (step l r).1 (step l r).2
termination_by r.size

end Recording

/-- The ledger after the promotions applied to a bill were recorded, and what came of it. -/
def Ledger.record (l : Ledger) (documents : List Document) (bill : Bill)
    (applied : List PromotionId) : Ledger × Redemption :=
  Recording.run l (.start documents bill applied)

end Promotions
