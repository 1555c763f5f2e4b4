import Promotions.Proofs.Eligibility.Ordinary

/-!
# Proofs: the first gate that rejects

Each gate can be asked by itself what it says of a bill, whatever the other gates say. Evaluation
asks them in their order, so its verdict is that of the first gate that does not accept: the gate of
the reason is how far the bill got.
-/

namespace Promotions

open Fallible Judged

namespace Gate

theorem mem_inOrder (gate : Gate) : gate ∈ inOrder := by
  cases gate <;> decide

theorem pairwise_inOrder : inOrder.Pairwise fun gate later => gate.rank < later.rank := by
  decide

/-- The gates before one are those of a lower rank. -/
theorem mem_before_iff {before after : List Gate} {gate other : Gate}
    (h : inOrder = before ++ gate :: after) : other ∈ before ↔ other.rank < gate.rank := by
  have hsorted := pairwise_inOrder
  rw [h, List.pairwise_append, List.pairwise_cons] at hsorted
  obtain ⟨-, ⟨hafter, -⟩, hbefore⟩ := hsorted
  constructor
  · intro hmem
    exact hbefore other hmem gate List.mem_cons_self
  · intro hlt
    have hmem := mem_inOrder other
    rw [h, List.mem_append, List.mem_cons] at hmem
    rcases hmem with hmem | rfl | hmem
    · exact hmem
    · exact absurd hlt (Nat.lt_irrefl _)
    · exact absurd hlt (Nat.not_lt.2 (hafter other hmem).le)

/-- The rank of a gate is the number of gates before it. -/
theorem length_before {before after : List Gate} {gate : Gate}
    (h : inOrder = before ++ gate :: after) : before.length = gate.rank := by
  have hranks : inOrder.map rank = List.range 7 := rfl
  have hgate : (inOrder.map rank)[before.length]? = some gate.rank := by
    rw [h, List.map_append, List.map_cons, List.getElem?_append_right (by simp)]
    simp
  rw [hranks] at hgate
  obtain ⟨_, hrank⟩ := List.getElem?_eq_some_iff.1 hgate
  rwa [List.getElem_range] at hrank

end Gate

namespace Document

variable {d : Document} {ctx : Context}

/-- What the rule grants for the eligible lines, whatever the gates before it say. -/
def granted (d : Document) (ctx : Context) : Judged Grant := do
  let lines ← EligibleLines.select d.targeting ctx.bill ctx.catalog
  d.rule.grant { bill := ctx.bill, catalog := ctx.catalog, lines, base := d.base ctx lines }

/-- What a gate says of the bill by itself. -/
def ask (d : Document) (ctx : Context) : Gate → Judged Unit
  | .validity => d.validityGate ctx
  | .scope => d.scopeGate ctx
  | .targeting => do
    let lines ← EligibleLines.select d.targeting ctx.bill ctx.catalog
    d.targetingGate lines
  | .customer => d.customerGate ctx
  | .threshold => do
    let lines ← EligibleLines.select d.targeting ctx.bill ctx.catalog
    d.thresholdGate lines
  | .limit => d.limitGate ctx
  | .rule => do
    let _ ← d.granted ctx
    return

/-- The gates that accept the bill, up to the first that does not. -/
def passed (d : Document) (ctx : Context) : List Gate :=
  Gate.inOrder.takeWhile fun gate => (d.ask ctx gate).isOk

/-- The document can be judged and every gate before this one accepts the bill, which this one does
not. -/
structure StopsAt (d : Document) (ctx : Context) (gate : Gate) (rejection : Rejection) : Prop where
  form : d.checkForm ctx.bill = .ok ()
  before : ∀ earlier : Gate, earlier.rank < gate.rank → d.ask ctx earlier = .ok ()
  here : d.ask ctx gate = .error rejection

/-- A fault of a document that cannot be judged. -/
def IsFormFault (d : Document) (bill : Bill) (fault : Fault) : Prop :=
  fault = .unsupportedVersion d.version ∨ fault = .unknownCurrency d.currency ∨
    fault = .currencyMismatch d.currency bill.currency

theorem isFormFault_of_checkForm {bill : Bill} {fault : Fault}
    (h : d.checkForm bill = .error fault) : d.IsFormFault bill fault := by
  unfold checkForm at h
  split_ifs at h
  · exact .inl (Except.error.inj h).symm
  · exact .inr (.inl (Except.error.inj h).symm)
  · exact .inr (.inr (Except.error.inj h).symm)

/-- A document that can be judged grants what its rule does, once all gates are asked. -/
theorem judge_eq_forM (hform : d.checkForm ctx.bill = .ok ()) :
    d.judge ctx = Gate.inOrder.forM (d.ask ctx) >>= fun _ => d.granted ctx := by
  rw [judge, hform]
  show _ = (d.validityGate ctx >>= fun _ => d.scopeGate ctx >>= fun _ => d.ask ctx .targeting >>=
    fun _ => d.customerGate ctx >>= fun _ => d.ask ctx .threshold >>= fun _ => d.limitGate ctx >>=
    fun _ => d.ask ctx .rule >>= fun _ => pure ()) >>= fun _ => d.granted ctx
  -- the lines are selected once by evaluation, and by each gate that is asked for them
  cases hlines : (liftM (EligibleLines.select d.targeting ctx.bill ctx.catalog) :
      Judged EligibleLines) with
  | error rejection => simp [ask, hlines, error_bind]
  | ok lines =>
    simp only [ask, granted, hlines, ok_bind, bind_assoc, pure_bind]
    cases d.rule.grant { bill := ctx.bill, catalog := ctx.catalog, lines, base := d.base ctx lines } with
    | error rejection => simp [error_bind]
    | ok grant => simp [ok_bind]

theorem ask_rule_eq_ok_iff : d.ask ctx .rule = .ok () ↔ ∃ grant, d.granted ctx = .ok grant := by
  unfold ask
  simp only [bind_eq_ok_iff, pure_eq_ok_iff, and_true]

theorem judge_eq_ok_iff_ask {grant : Grant} (hform : d.checkForm ctx.bill = .ok ()) :
    d.judge ctx = .ok grant ↔ (∀ gate, d.ask ctx gate = .ok ()) ∧ d.granted ctx = .ok grant := by
  rw [judge_eq_forM hform, bind_eq_ok_iff]
  constructor
  · rintro ⟨_, hall, hgrant⟩
    exact ⟨fun gate => forM_eq_ok_iff.1 hall gate gate.mem_inOrder, hgrant⟩
  · rintro ⟨hall, hgrant⟩
    exact ⟨(), forM_eq_ok_iff.2 fun gate _ => hall gate, hgrant⟩

/-- A document that can be judged stops at the first gate that does not accept the bill. -/
theorem judge_eq_error_iff_stopsAt {rejection : Rejection}
    (hform : d.checkForm ctx.bill = .ok ()) :
    d.judge ctx = .error rejection ↔ ∃ gate, d.StopsAt ctx gate rejection := by
  rw [judge_eq_forM hform, bind_eq_error_iff, forM_eq_error_iff]
  constructor
  · rintro (⟨before, gate, after, hgates, hbefore, hgate⟩ | ⟨_, hall, hgranted⟩)
    · exact ⟨gate, hform,
        fun earlier hlt => hbefore earlier ((Gate.mem_before_iff hgates).2 hlt), hgate⟩
    · -- the last gate has already worked out what the rule grants
      obtain ⟨grant, hgrant⟩ :=
        ask_rule_eq_ok_iff.1 (forM_eq_ok_iff.1 hall .rule (Gate.mem_inOrder _))
      rw [hgrant] at hgranted
      cases hgranted
  · rintro ⟨gate, hstops⟩
    obtain ⟨before, after, hgates⟩ := List.append_of_mem gate.mem_inOrder
    refine .inl ⟨before, gate, after, hgates, fun earlier hmem => ?_, hstops.here⟩
    exact hstops.before earlier ((Gate.mem_before_iff hgates).1 hmem)

/-- What stops a gate is a reason of that gate, or an amount that cannot be calculated. -/
theorem stopsFor_ask (gate : Gate) : StopsFor (·.gate = gate) (d.ask ctx gate) := by
  cases gate with
  | validity => exact stopsFor_validityGate.mono fun _ h => h.1
  | scope => exact stopsFor_scopeGate.mono fun _ h => h.1
  | targeting => exact (StopsFor.lift _).bind stopsFor_targetingGate
  | customer => exact stopsFor_customerGate
  | threshold => exact (StopsFor.lift _).bind stopsFor_thresholdGate
  | limit => exact stopsFor_limitGate
  | rule =>
    refine StopsFor.bind ?_ fun _ => StopsFor.ok ()
    refine (StopsFor.lift _).bind fun lines => ?_
    exact (d.rule.stopsFor_grant _).mono fun _ h => h.1

/-- A gate that is the first not to accept the bill can have failed to calculate something only
where lines are compared across brands, selected, or given their discount. -/
theorem StopsAt.gate_of_fault {gate : Gate} {fault : Fault}
    (h : d.StopsAt ctx gate (.fault fault)) : gate = .scope ∨ gate = .targeting ∨ gate = .rule := by
  have hhere := h.here
  cases gate with
  | validity => exact absurd hhere (d.decides_validityGate ctx fault)
  | scope => exact .inl rfl
  | targeting => exact .inr (.inl rfl)
  | customer => exact absurd hhere (d.decides_customerGate ctx fault)
  | threshold =>
    -- the lines were selected already when the gate of targeting was asked
    obtain ⟨lines, hlines, -⟩ := bind_eq_ok_iff.1 (h.before .targeting (by decide))
    unfold ask at hhere
    rw [hlines, ok_bind] at hhere
    exact absurd hhere (d.decides_thresholdGate lines fault)
  | limit => exact absurd hhere (d.decides_limitGate ctx fault)
  | rule => exact .inr (.inr rfl)

theorem StopsAt.gate_of_reason {gate : Gate} {reason : Reason}
    (h : d.StopsAt ctx gate (.ineligible reason)) : reason.gate = gate :=
  (stopsFor_ask gate).rejectsFor reason h.here

/-- The gates that are passed are those before the one at which evaluation stops. -/
theorem StopsAt.length_passed {gate : Gate} {rejection : Rejection}
    (h : d.StopsAt ctx gate rejection) : (d.passed ctx).length = gate.rank := by
  obtain ⟨before, after, hgates⟩ := List.append_of_mem gate.mem_inOrder
  have hbefore : ∀ earlier ∈ before, (d.ask ctx earlier).isOk = true := by
    intro earlier hmem
    rw [h.before earlier ((Gate.mem_before_iff hgates).1 hmem)]
    rfl
  have hhere : ¬(d.ask ctx gate).isOk = true := by
    rw [h.here]
    exact Bool.false_ne_true
  have hpassed : d.passed ctx = before := by
    unfold passed
    rw [hgates, List.takeWhile_append_of_pos hbefore, List.takeWhile_cons_of_neg, List.append_nil]
    exact hhere
  rw [hpassed, Gate.length_before hgates]

theorem verdict_eq_ineligible_iff_stopsAt {reason : Reason} :
    (d.evaluate ctx).verdict = .ineligible reason ↔
      d.StopsAt ctx reason.gate (.ineligible reason) := by
  rw [verdict_eq_ineligible_iff]
  constructor
  · intro hjudge
    cases hform : d.checkForm ctx.bill with
    | error fault =>
      rw [judge, hform] at hjudge
      cases hjudge
    | ok form =>
      obtain ⟨gate, hstops⟩ := (judge_eq_error_iff_stopsAt hform).1 hjudge
      rw [hstops.gate_of_reason]
      exact hstops
  · intro hstops
    exact (judge_eq_error_iff_stopsAt hstops.form).2 ⟨_, hstops⟩

theorem verdict_eq_eligible_iff_ask {grant : Grant} :
    (d.evaluate ctx).verdict = .eligible grant ↔ d.checkForm ctx.bill = .ok () ∧
      (∀ gate, d.ask ctx gate = .ok ()) ∧ d.granted ctx = .ok grant := by
  rw [verdict_eq_eligible_iff]
  constructor
  · intro hjudge
    obtain ⟨lines, hpasses, -⟩ := judge_eq_ok_iff.1 hjudge
    exact ⟨hpasses.form, (judge_eq_ok_iff_ask hpasses.form).1 hjudge⟩
  · rintro ⟨hform, h⟩
    exact (judge_eq_ok_iff_ask hform).2 h

theorem verdict_eq_error_iff_stopsAt {fault : Fault} :
    (d.evaluate ctx).verdict = .error fault ↔
      (d.checkForm ctx.bill = .error fault ∧ d.IsFormFault ctx.bill fault) ∨
        ∃ gate e, d.StopsAt ctx gate (.fault fault) ∧ fault = .arithmetic e ∧
          (gate = .scope ∨ gate = .targeting ∨ gate = .rule) := by
  rw [verdict_eq_error_iff]
  constructor
  · intro hjudge
    cases hform : d.checkForm ctx.bill with
    | error formFault =>
      rw [judge, hform] at hjudge
      cases hjudge
      exact .inl ⟨rfl, isFormFault_of_checkForm hform⟩
    | ok form =>
      obtain ⟨gate, hstops⟩ := (judge_eq_error_iff_stopsAt hform).1 hjudge
      obtain ⟨e, he⟩ := (stopsFor_ask gate).arithmetic hstops.here
      exact .inr ⟨gate, e, hstops, he, hstops.gate_of_fault⟩
  · rintro (⟨hform, -⟩ | ⟨gate, e, hstops, -, -⟩)
    · rw [judge, hform]
    · exact (judge_eq_error_iff_stopsAt hstops.form).2 ⟨gate, hstops⟩

/-- The verdict is that of the first gate that does not accept the bill. A reason is of the gate at
which evaluation stops, so of two reasons the one of the later gate is of the bill that got further.
A fault is one of a document that cannot be judged, or of an amount that cannot be calculated. -/
theorem evaluate_first_gate (d : Document) (ctx : Context) :
    (∀ reason, (d.evaluate ctx).verdict = .ineligible reason ↔
      d.StopsAt ctx reason.gate (.ineligible reason)) ∧
    (∀ grant, (d.evaluate ctx).verdict = .eligible grant ↔ d.checkForm ctx.bill = .ok () ∧
      (∀ gate, d.ask ctx gate = .ok ()) ∧ d.granted ctx = .ok grant) ∧
    (∀ fault, (d.evaluate ctx).verdict = .error fault ↔
      (d.checkForm ctx.bill = .error fault ∧ d.IsFormFault ctx.bill fault) ∨
        ∃ gate e, d.StopsAt ctx gate (.fault fault) ∧ fault = .arithmetic e ∧
          (gate = .scope ∨ gate = .targeting ∨ gate = .rule)) ∧
    ∀ (d' : Document) (ctx' : Context) (reason reason' : Reason),
      (d.evaluate ctx).verdict = .ineligible reason →
        (d'.evaluate ctx').verdict = .ineligible reason' →
          (d.passed ctx).length = reason.gate.rank ∧
            (reason.gate.rank < reason'.gate.rank ↔
              (d.passed ctx).length < (d'.passed ctx').length) := by
  refine ⟨fun _ => verdict_eq_ineligible_iff_stopsAt, fun _ => verdict_eq_eligible_iff_ask,
    fun _ => verdict_eq_error_iff_stopsAt, ?_⟩
  intro d' ctx' reason reason' hverdict hverdict'
  have hlength := (verdict_eq_ineligible_iff_stopsAt.1 hverdict).length_passed
  have hlength' := (verdict_eq_ineligible_iff_stopsAt.1 hverdict').length_passed
  rw [hlength, hlength']
  exact ⟨rfl, Iff.rfl⟩

end Document

namespace Sample

/-- A promotion for members, of whom there is none on the bill. -/
def forMembers : Document :=
  { document 1 "A" 70 (policy .cartLevel) with audience := ⟨true, .empty, .empty, .all, 30⟩ }

/-- A promotion for bills of a larger total. -/
def forLarger : Document :=
  { document 1 "A" 70 (policy .cartLevel) with requirements := ⟨amount 101, 0, 0⟩ }

end Sample

/-- Without a member the bill gets as far as the gate of the customer, and with too small a total as
far as the gate after it. -/
theorem Document.evaluate_first_gate_shop :
    Sample.forMembers.StopsAt Sample.context .customer (.ineligible .memberRequired) ∧
      (Sample.forMembers.passed Sample.context).length <
        (Sample.forLarger.passed Sample.context).length := by
  have hmember :
      (Sample.forMembers.evaluate Sample.context).verdict = .ineligible .memberRequired := by
    decide +kernel
  have htotal :
      (Sample.forLarger.evaluate Sample.context).verdict = .ineligible .minPurchaseNotMet := by
    decide +kernel
  obtain ⟨hreason, -, -, horder⟩ := evaluate_first_gate Sample.forMembers Sample.context
  obtain ⟨-, hfurther⟩ := horder Sample.forLarger Sample.context _ _ hmember htotal
  exact ⟨(hreason _).1 hmember, hfurther.1 (by decide)⟩

end Promotions
