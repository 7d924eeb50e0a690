import ClientWiring.Kafka.TransactionManager
import ClientWiring.Proofs.Kafka.TemplateLife
import ClientWiring.Proofs.Kafka.TransactionalIds
import Mathlib.Logic.Function.Basic

/-!
# Numbers of a shared factory

Whoever needs a transactional id asks the factory: callers for the id alone or for a producer,
transaction managers for each transaction, and templates when they need a producer and keep none.
All of them share one counter.  A use of the factory has a prefix or has none (idPrefix?), and that
decides what it takes (step_eq_numbered):

    no prefix     no id, and the factory is as before
    a prefix p    the id p ++ n, where n is the number of ids before, and one more id is counted

How the use ends plays no part: an id is gone that was taken for a producer that could not be made.
So the ids of a run over a new factory are the prefixes with the numbers 0, 1, 2, … behind them
(run_takes_each_number_once).
-/

namespace ClientWiring.Kafka

namespace ProducerFactory

/-- What an id for a prefix takes: the next number, or nothing without a prefix. -/
def numbered (f : ProducerFactory) : Option String → Option String × ProducerFactory
  | none => (none, f)
  | some p => (some (p ++ (f.number 0).repr), f.counted)

theorem allocate_eq_numbered (f : ProducerFactory) (own : Option String) :
    f.allocate own = f.numbered (own.or f.transactionIdPrefix) := by
  unfold allocate numbered
  rw [number_zero]
  cases own.or f.transactionIdPrefix with
  | none => rfl
  | some p => rfl

/-- An attempt takes an id, however it ends. -/
theorem attempt_eq_numbered (f : ProducerFactory) (around : Surroundings) (own : Option String) :
    ((f.attempt around own).1.id, (f.attempt around own).2) =
      f.numbered (own.or f.transactionIdPrefix) :=
  allocate_eq_numbered f own

theorem number_of_fresh (f : ProducerFactory) {k : Nat} (hfresh : f.issued = 0)
    (hk : k < UInt64.size) : f.number k = k := by
  unfold number
  rw [hfresh, UInt64.toNat_zero, Nat.zero_add, Nat.mod_eq_of_lt hk]

end ProducerFactory

/-! ## Templates -/

namespace Template

/-- The prefix of the id that a request takes: none if the request ends before it needs a producer,
or if one is kept. -/
def idPrefix? (t : Template) (r : Request) : Option String :=
  if t.hasProducer then none
  else
    match r.destination? t with
    | some (.ok _) => t.transactionIdPrefix.or t.factory.transactionIdPrefix
    | _ => none

/-- A request that goes to a topic takes an id just when no producer is kept. -/
theorem obtain_eq_numbered (around : Surroundings) {t : Template} {r : Request} {topic : String}
    (hgoes : r.destination? t = some (.ok topic)) :
    ((t.obtain around).1.bind (fun a => a.id), (t.obtain around).2.factory) =
      t.factory.numbered (t.idPrefix? r) := by
  unfold idPrefix?
  cases hkept : t.hasProducer with
  | true =>
    rw [obtain_of_kept around t hkept]
    rfl
  | false =>
    obtain ⟨a, h, hid⟩ := exists_obtain_of_empty around t hkept
    have hattempt := t.factory.attempt_eq_numbered around t.transactionIdPrefix
    rw [h, hgoes]
    show (a.id, (t.factory.attempt around t.transactionIdPrefix).2) = _
    rw [hid, hattempt]
    rfl

/-- A request that stops before that, and a flush, take none. -/
theorem Course.eq_numbered {around : Surroundings} {t : Template} {r : Request} {s : Sending}
    (h : Course around t r s) :
    (s.attempt.bind (fun a => a.id), s.template.factory) =
      t.factory.numbered (t.idPrefix? r) := by
  cases h with
  | flushed hnowhere =>
    unfold idPrefix?
    rw [hnowhere, ite_self]
    rfl
  | stopped hstops =>
    unfold idPrefix?
    rw [hstops, ite_self]
    rfl
  | unready hgoes hfault => exact obtain_eq_numbered around hgoes
  | delivered hgoes hready hanswer => exact obtain_eq_numbered around hgoes

end Template

/-! ## A shared factory -/

/-- A factory, and templates that share it. -/
structure Sharing (ι : Type) where
  factory : ProducerFactory
  templates : ι → Template

/-- What can be done with a shared factory: an id is taken, a producer is made, a transaction is
begun, or something is asked of one of the templates. -/
inductive Use (ι : Type) where
  | nextId
  | create (around : Surroundings) (own : Option String)
  | begin (around : Surroundings) (timeout : Duration)
  | request (i : ι) (around : Surroundings) (r : Template.Request)

/-- A step of a run: the use and what was there before, the id that it took, how it ended, and what
it left. -/
structure SharedStep (ι : Type) where
  before : Sharing ι
  use : Use ι
  id : Option String
  answer : Except AppError Unit
  after : Sharing ι

namespace Sharing

variable {ι : Type}

/-- A template with the shared factory. -/
def template (s : Sharing ι) (i : ι) : Template := { s.templates i with factory := s.factory }

/-- The prefix of the id that a use takes, if it takes one. -/
def idPrefix? (s : Sharing ι) : Use ι → Option String
  | .nextId => s.factory.transactionIdPrefix
  | .create _ own => own.or s.factory.transactionIdPrefix
  | .begin _ _ => s.factory.transactionIdPrefix
  | .request i _ r => (s.template i).idPrefix? r

variable [DecidableEq ι]

/-- A use of the factory. -/
def step (s : Sharing ι) (use : Use ι) : SharedStep ι :=
  match use with
  | .nextId =>
    let (id, factory) := s.factory.allocate none
    { before := s, use, id, answer := .ok (), after := { s with factory } }
  | .create around own =>
    let (attempt, factory) := s.factory.attempt around own
    { before := s, use, id := attempt.id, answer := attempt.answer, after := { s with factory } }
  | .begin around timeout =>
    let (begun, manager) := TransactionManager.begin around ⟨s.factory, timeout⟩
    { before := s
      use
      id := (s.factory.attempt around none).1.id
      answer := begun.answer
      after := { s with factory := manager.factory } }
  | .request i around r =>
    let sending := (s.template i).perform around r
    { before := s
      use
      id := sending.attempt.bind fun a => a.id
      answer := sending.answer
      after :=
        { factory := sending.template.factory
          templates := Function.update s.templates i sending.template } }

/-- The steps of a run. -/
def run (s : Sharing ι) : List (Use ι) → List (SharedStep ι)
  | [] => []
  | use :: rest => s.step use :: (s.step use).after.run rest

/-- What is left after a run. -/
def after (s : Sharing ι) (uses : List (Use ι)) : Sharing ι :=
  uses.foldl (fun s use => (s.step use).after) s

end Sharing

/-- The prefix of the id that a step takes. -/
def SharedStep.idPrefix? {ι : Type} (x : SharedStep ι) : Option String := x.before.idPrefix? x.use

/-- The ids that a run takes. -/
def idsOfRun {ι : Type} (run : List (SharedStep ι)) : List String := run.filterMap fun x => x.id

/-- Their prefixes. -/
def prefixesOfRun {ι : Type} (run : List (SharedStep ι)) : List String :=
  run.filterMap SharedStep.idPrefix?

namespace Sharing

variable {ι : Type} [DecidableEq ι]

/-! ## One use -/

/-- Whatever the use and however it ends, its prefix decides what it takes. -/
theorem step_eq_numbered (s : Sharing ι) (use : Use ι) :
    ((s.step use).id, (s.step use).after.factory) = s.factory.numbered (s.idPrefix? use) := by
  cases use with
  | nextId => exact ProducerFactory.allocate_eq_numbered s.factory none
  | create around own => exact ProducerFactory.attempt_eq_numbered s.factory around own
  | begin around timeout => exact ProducerFactory.attempt_eq_numbered s.factory around none
  | request i around r => exact (Template.course_perform around (s.template i) r).eq_numbered

theorem step_of_none {s : Sharing ι} {use : Use ι} (h : s.idPrefix? use = none) :
    (s.step use).id = none ∧ (s.step use).after.factory = s.factory := by
  have hstep := step_eq_numbered s use
  rw [h] at hstep
  exact Prod.mk.inj hstep

theorem step_of_some {s : Sharing ι} {use : Use ι} {p : String} (h : s.idPrefix? use = some p) :
    (s.step use).id = some (p ++ (s.factory.number 0).repr) ∧
      (s.step use).after.factory = s.factory.counted := by
  have hstep := step_eq_numbered s use
  rw [h] at hstep
  exact Prod.mk.inj hstep

@[simp] theorem before_step (s : Sharing ι) (use : Use ι) : (s.step use).before = s := by
  cases use <;> rfl

@[simp] theorem use_step (s : Sharing ι) (use : Use ι) : (s.step use).use = use := by
  cases use <;> rfl

theorem idPrefix?_step (s : Sharing ι) (use : Use ι) :
    (s.step use).idPrefix? = s.idPrefix? use := by
  rw [SharedStep.idPrefix?, before_step, use_step]

/-! ## A whole run -/

/-- Each step of a run is a use of what the step before has left. -/
theorem eq_step_of_mem_run {s : Sharing ι} {uses : List (Use ι)} {x : SharedStep ι}
    (hx : x ∈ s.run uses) : x = x.before.step x.use := by
  induction uses generalizing s with
  | nil => cases hx
  | cons use rest ih =>
    rw [run] at hx
    rcases List.mem_cons.mp hx with rfl | hx
    · rw [before_step, use_step]
    · exact ih hx

theorem length_run (s : Sharing ι) (uses : List (Use ι)) : (s.run uses).length = uses.length := by
  induction uses generalizing s with
  | nil => rfl
  | cons use rest ih => rw [run, List.length_cons, List.length_cons, ih]

theorem length_prefixesOfRun_le (s : Sharing ι) (uses : List (Use ι)) :
    (prefixesOfRun (s.run uses)).length ≤ uses.length := by
  rw [← length_run s uses]
  exact List.length_filterMap_le ..

/-- By induction on the uses, for every factory: a use that takes an id hands on a counted factory,
whose numbers are the later ones. -/
theorem idsOfRun_eq (s : Sharing ι) (uses : List (Use ι)) :
    idsOfRun (s.run uses) =
      (prefixesOfRun (s.run uses)).mapIdx fun k p => p ++ (s.factory.number k).repr := by
  induction uses generalizing s with
  | nil => rfl
  | cons use rest ih =>
    have hrest := ih (s.step use).after
    unfold idsOfRun prefixesOfRun at hrest ⊢
    rw [run]
    cases h : s.idPrefix? use with
    | none =>
      obtain ⟨hid, hfactory⟩ := step_of_none h
      rw [hfactory] at hrest
      rw [List.filterMap_cons_none hid, List.filterMap_cons_none ((idPrefix?_step s use).trans h)]
      exact hrest
    | some p =>
      obtain ⟨hid, hfactory⟩ := step_of_some h
      rw [hfactory] at hrest
      rw [List.filterMap_cons_some hid, List.filterMap_cons_some ((idPrefix?_step s use).trans h),
        ProducerFactory.mapIdx_number_cons, hrest]

/-- The counter of a run counts the ids. -/
theorem issued_after (s : Sharing ι) (uses : List (Use ι)) :
    (s.after uses).factory.issued.toNat =
      s.factory.number (prefixesOfRun (s.run uses)).length := by
  induction uses generalizing s with
  | nil => exact (ProducerFactory.number_zero s.factory).symm
  | cons use rest ih =>
    have hrest : (s.after (use :: rest)).factory.issued.toNat = _ := ih (s.step use).after
    rw [hrest]
    unfold prefixesOfRun
    rw [run]
    cases h : s.idPrefix? use with
    | none =>
      rw [(step_of_none h).2, List.filterMap_cons_none ((idPrefix?_step s use).trans h)]
    | some p =>
      rw [(step_of_some h).2, List.filterMap_cons_some ((idPrefix?_step s use).trans h),
        List.length_cons, ProducerFactory.number_counted]

/-- What is true of the ids of a run that ends with the sharing `left`. -/
structure TakesInOrder (s : Sharing ι) (run : List (SharedStep ι)) (left : Sharing ι) : Prop where
  /-- The `k`-th id is the `k`-th prefix with the number of ids before it. -/
  ids : idsOfRun run = (prefixesOfRun run).mapIdx fun k p => p ++ (s.factory.number k).repr
  /-- The ids of a new factory are numbered from 0 on. -/
  fresh : s.factory.issued = 0 → idsOfRun run = (prefixesOfRun run).mapIdx fun k p => p ++ k.repr
  /-- No number is used twice. -/
  distinct : ∀ i j, i < (prefixesOfRun run).length → j < (prefixesOfRun run).length →
    s.factory.number i = s.factory.number j → i = j
  /-- No number is left out. -/
  counted : left.factory.issued.toNat = s.factory.number (prefixesOfRun run).length
  /-- A use with a prefix takes one id and one number, however it ends. -/
  spends : ∀ x ∈ run, ∀ p, x.idPrefix? = some p →
    x.id.isSome ∧ x.after.factory.issued = x.before.factory.issued + 1
  /-- A use without a prefix takes none. -/
  keeps : ∀ x ∈ run, x.idPrefix? = none → x.id = none ∧ x.after.factory = x.before.factory

/-- A run of less than 2^64 uses takes its numbers one by one. -/
theorem run_takes_each_number_once (s : Sharing ι) (uses : List (Use ι))
    (hshort : uses.length < UInt64.size) : s.TakesInOrder (s.run uses) (s.after uses) := by
  have hids := idsOfRun_eq s uses
  have hlength := length_prefixesOfRun_le s uses
  refine
    { ids := hids
      fresh := ?_
      distinct := ?_
      counted := issued_after s uses
      spends := ?_
      keeps := ?_ }
  · intro hfresh
    rw [hids]
    refine List.ext_getElem (by simp) fun k hk _ => ?_
    rw [List.length_mapIdx] at hk
    simp only [List.getElem_mapIdx]
    rw [ProducerFactory.number_of_fresh s.factory hfresh (by omega)]
  · intro i j hi hj hsame
    exact ProducerFactory.eq_of_number_eq (by omega) (by omega) hsame
  · intro x hx p hp
    rw [eq_step_of_mem_run hx]
    obtain ⟨hid, hfactory⟩ := step_of_some hp
    rw [hid, hfactory, before_step]
    exact ⟨rfl, rfl⟩
  · intro x hx hp
    rw [eq_step_of_mem_run hx, before_step]
    exact step_of_none hp

/-- Two templates, one with a prefix of its own, over a factory with a prefix whose clients read a file
of authorities. -/
def twoTemplates : Sharing Bool :=
  let factory := { Template.authorityReader.factory with transactionIdPrefix := some "tx-" }
  let template := { Template.authorityReader with factory }
  { factory
    templates own := if own then { template with transactionIdPrefix := some "a-" } else template }

/-- A run in which the file is missing at first, then there is no broker, and then there is one. -/
def mixedUses : List (Use Bool) :=
  let broker : Surroundings :=
    { files := .ofFiles [("ca.pem", "")]
      library := { Library.offline with prepareRefusal? := none, beginRefusal? := none } }
  [.request true (.offline (.ofFiles [])) (.send "t" none), .nextId,
   .create (.offline (.ofFiles [])) (some "own-"), .request false (.offline (.ofFiles [])) (.sendDefault none),
   .begin (.offline (.ofFiles [("ca.pem", "")])) (.ofSeconds 30),
   .request true (.offline (.ofFiles [("ca.pem", "")])) (.send "t" none), .request true broker .flush,
   .request true broker (.send "t" none), .request true broker (.send "t" none),
   .request false broker (.send "t" none), .begin broker (.ofSeconds 30)]

/-- Of eleven uses eight fail, and eight take a number, most of them in vain. -/
theorem run_takes_each_number_once_mixed :
    mixedUses.length < UInt64.size ∧
      ((twoTemplates.run mixedUses).map fun x => x.answer.isOk) =
        [false, true, false, false, false, false, true, false, false, false, true] ∧
      idsOfRun (twoTemplates.run mixedUses) =
        ["a-0", "tx-1", "own-2", "tx-3", "a-4", "a-5", "tx-6", "tx-7"] := by
  have hshort : mixedUses.length < UInt64.size := by decide
  have hrun := run_takes_each_number_once twoTemplates mixedUses hshort
  have hprefixes : prefixesOfRun (twoTemplates.run mixedUses) =
      ["a-", "tx-", "own-", "tx-", "a-", "a-", "tx-", "tx-"] := by
    decide +kernel
  refine ⟨hshort, by decide +kernel, ?_⟩
  rw [hrun.fresh rfl, hprefixes]
  decide

end Sharing

end ClientWiring.Kafka
