import Promotions.Service

/-!
# Stores that are compiled side by side

The service compiles the open stores of a company all at once. Each of them may be finished at any
time, and one that is finished is recorded at some later time, so they are recorded in no fixed
order. `Service.compileCompany` is the run in which each store is finished and recorded before the
next one is looked at. Where no two stores have the same identifier, all runs come to what it gives.
-/

namespace Promotions

/-- Stores that are compiled side by side. -/
structure FanOut where
  /-- The stores that are still being compiled. -/
  running : List Store
  /-- What is compiled and waits to be recorded. -/
  finished : List StoreCompilation
  /-- What is recorded. -/
  company : CompanyCompilation

namespace FanOut

/-- What may happen next, where `work` compiles a store. -/
inductive Step (work : Store → StoreCompilation) : FanOut → FanOut → Prop where
  /-- One of the stores is finished. -/
  | finish (before : List Store) (store : Store) (after : List Store)
      (finished : List StoreCompilation) (company : CompanyCompilation) :
    Step work ⟨before ++ store :: after, finished, company⟩
      ⟨before ++ after, finished ++ [work store], company⟩
  /-- One of those that are finished is recorded. -/
  | record (running : List Store) (before : List StoreCompilation) (s : StoreCompilation)
      (after : List StoreCompilation) (company : CompanyCompilation) :
    Step work ⟨running, before ++ s :: after, company⟩
      ⟨running, before ++ after, company.record s⟩

/-- All open stores are being compiled. -/
def start (r : Reference) (compiledAt : Timestamp) : FanOut :=
  ⟨r.activeStores, [], { companyId := r.company.id, compiledAt }⟩

/-- Everything is recorded. -/
def IsDone (s : FanOut) : Prop := s.running = [] ∧ s.finished = []

end FanOut

end Promotions
