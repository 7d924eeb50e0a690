import ClientWiring.Kafka.Template

/-!
# The life of a template

A request to a template goes through stages.  It finds its topic and its payload, it needs a producer
to be there, and then it sends.  `Course` lists where it can end:

    flushed      a flush, which goes nowhere
    stopped      no default topic, or no payload
    unready      no producer was kept, and the attempt to get one ready failed
    delivered    there was a producer, kept or new, and the message was sent or not

Every request takes one of these courses (course_perform).  What is true of all runs is read off the
courses: an attempt is made just when a producer is needed and none was got ready before, so that one
is kept at most, and only `delivered` tells the listener (run_obeys_life_cycle).
-/

namespace ClientWiring.Kafka

/-- Whether a producer was got ready in a step. -/
def Sending.madeReady (s : Sending) : Bool := s.attempt.any fun a => a.fault?.isNone

/-- The failure of the attempt of a step, if there was an attempt and it failed. -/
def Sending.fault? (s : Sending) : Option AppError := s.attempt.bind Attempt.fault?

theorem Library.exists_accept_eq_error {refusal? : Option String} (hrefused : refusal?.isSome)
    (refused : String → AppError) : ∃ e, accept refusal? refused = .error e := by
  obtain ⟨reason, rfl⟩ := Option.isSome_iff_exists.mp hrefused
  exact ⟨refused reason, rfl⟩

namespace SendReport

variable {topic other : String} {key otherKey : Option String} {answer : Except AppError Unit}

theorem exists_of_ofAnswer_eq_failed {text : String}
    (h : ofAnswer topic key answer = .failed other otherKey text) :
    ∃ e, answer = .error e ∧ e.message = text := by
  cases answer with
  | ok _ => cases h
  | error e =>
    cases h
    exact ⟨e, rfl, rfl⟩

theorem eq_ok_of_ofAnswer_eq_sent (h : ofAnswer topic key answer = .sent other) :
    answer = .ok () := by
  cases answer with
  | ok _ => rfl
  | error e => cases h

end SendReport

/-- An attempt leaves the prefix of the factory. -/
theorem ProducerFactory.transactionIdPrefix_attempt (around : Surroundings) (f : ProducerFactory)
    (own : Option String) :
    (f.attempt around own).2.transactionIdPrefix = f.transactionIdPrefix := by
  show (f.allocate own).2.transactionIdPrefix = f.transactionIdPrefix
  unfold allocate
  split
  · rfl
  · rfl

namespace Template

/-- What a template is asked to do. -/
inductive Request where
  | send (topic : String) (key : Option String)
  | sendDefault (key : Option String)
  | sendMessage (topic : String) (key : Option String) (message : Message)
  | flush

/-- The key of a message. -/
def Request.key : Request → Option String
  | .send _ key => key
  | .sendDefault key => key
  | .sendMessage _ key _ => key
  | .flush => none

/-- Where a request goes, as far as it can be told without a producer: to a topic, or nowhere with an
error.  A flush goes nowhere and has no error. -/
def Request.destination? (t : Template) : Request → Option (Except AppError String)
  | .send topic _ => some (.ok topic)
  | .sendDefault _ => some (t.defaultTopic.elim (.error .noDefaultTopic) .ok)
  | .sendMessage topic _ message => some ((t.payload message).map fun _ => topic)
  | .flush => none

/-- What comes of a request. -/
def perform (around : Surroundings) (t : Template) : Request → Sending
  | .send topic key => t.send around topic key
  | .sendDefault key => t.sendDefault around key
  | .sendMessage topic key message => t.sendMessage around topic key message
  | .flush => t.flush around.library.flushRefusal?

section

variable (around : Surroundings) (t : Template)

/-! ## Getting a producer ready -/

theorem obtain_of_kept (hkept : t.hasProducer = true) : t.obtain around = (none, t) := by
  unfold obtain
  rw [if_pos hkept]

theorem exists_obtain_of_empty (hempty : t.hasProducer = false) :
    ∃ a, t.obtain around =
        (some a, { t with
          factory := (t.factory.attempt around t.transactionIdPrefix).2
          hasProducer := a.fault?.isNone }) ∧
      a.id = (t.factory.attempt around t.transactionIdPrefix).1.id := by
  unfold obtain
  rw [if_neg (by simp [hempty])]
  refine ⟨_, rfl, ?_⟩
  split
  · rfl
  · rfl

/-- An attempt is made just when no producer is kept. -/
theorem isSome_obtain : (t.obtain around).1.isSome = !t.hasProducer := by
  cases hkept : t.hasProducer with
  | true =>
    rw [obtain_of_kept around t hkept]
    rfl
  | false =>
    obtain ⟨a, h, -⟩ := exists_obtain_of_empty around t hkept
    rw [h]
    rfl

/-- A producer is kept that was kept before, or that was got ready. -/
theorem hasProducer_obtain :
    (t.obtain around).2.hasProducer =
      (t.hasProducer || (t.obtain around).1.any fun a => a.fault?.isNone) := by
  cases hkept : t.hasProducer with
  | true =>
    rw [obtain_of_kept around t hkept]
    exact hkept
  | false =>
    obtain ⟨a, h, -⟩ := exists_obtain_of_empty around t hkept
    rw [h]
    rfl

/-- Where requests go does not change. -/
theorem destination?_obtain (r : Request) :
    r.destination? (t.obtain around).2 = r.destination? t := by
  cases hkept : t.hasProducer with
  | true => rw [obtain_of_kept around t hkept]
  | false =>
    obtain ⟨a, h, -⟩ := exists_obtain_of_empty around t hkept
    rw [h]
    cases r <;> rfl

/-- Whether sends are transactions does not change either. -/
theorem isTransactional_obtain : (t.obtain around).2.isTransactional = t.isTransactional := by
  cases hkept : t.hasProducer with
  | true => rw [obtain_of_kept around t hkept]
  | false =>
    obtain ⟨a, h, -⟩ := exists_obtain_of_empty around t hkept
    rw [h]
    show (t.transactionIdPrefix.isSome ||
      (t.factory.attempt around t.transactionIdPrefix).2.isTransactional) = t.isTransactional
    rw [ProducerFactory.isTransactional, ProducerFactory.transactionIdPrefix_attempt]
    rfl

/-! ## The course of a request -/

/-- The courses that a request can take, each with what comes of it. -/
inductive Course (r : Request) : Sending → Prop
  | flushed {log} (hnowhere : r.destination? t = none) :
      Course r { answer := .ok (), attempt := none, log, reports := [], template := t }
  | stopped {e log} (hstops : r.destination? t = some (.error e)) :
      Course r { answer := .error e, attempt := none, log, reports := [], template := t }
  | unready {topic e log} (hgoes : r.destination? t = some (.ok topic))
      (hfault : (t.obtain around).1.bind Attempt.fault? = some e) :
      Course r
        { answer := .error e
          attempt := (t.obtain around).1
          log
          reports := []
          template := (t.obtain around).2 }
  | delivered {topic answer log} (hgoes : r.destination? t = some (.ok topic))
      (hready : (t.obtain around).1.bind Attempt.fault? = none)
      (hanswer : answer = ((t.obtain around).2.transmit around topic).answer) :
      Course r
        { answer
          attempt := (t.obtain around).1
          log
          reports := [.ofAnswer topic r.key answer]
          template := (t.obtain around).2 }

variable {around t}

theorem course_deliver {r : Request} {topic : String}
    (hgoes : r.destination? t = some (.ok topic)) :
    Course around t r (t.deliver around topic r.key) := by
  unfold deliver
  cases hfault : (t.obtain around).1.bind Attempt.fault? with
  | some e =>
    simp only [hfault]
    exact .unready hgoes hfault
  | none =>
    simp only [hfault]
    exact .delivered hgoes hfault rfl

/-- What is written to the log plays no part in the course. -/
theorem Course.withLog {r : Request} {s : Sending} (h : Course around t r s)
    (log : List LogEntry) : Course around t r { s with log } := by
  cases h with
  | flushed hnowhere => exact .flushed hnowhere
  | stopped hstops => exact .stopped hstops
  | unready hgoes hfault => exact .unready hgoes hfault
  | delivered hgoes hready hanswer => exact .delivered hgoes hready hanswer

theorem course_send {r : Request} {topic : String}
    (hgoes : r.destination? t = some (.ok topic)) :
    Course around t r (t.send around topic r.key) := by
  have hdeliver : Course around t r (t.deliver around topic r.key) := course_deliver hgoes
  unfold send
  split
  · exact hdeliver.withLog _
  · exact hdeliver

end

/-- Every request takes one of the courses. -/
theorem course_perform (around : Surroundings) (t : Template) (r : Request) :
    Course around t r (t.perform around r) := by
  cases r with
  | send topic key => exact course_send (r := .send topic key) rfl
  | sendDefault key =>
    show Course around t _ (t.sendDefault around key)
    unfold sendDefault
    cases hdefault : t.defaultTopic with
    | none =>
      refine .stopped ?_
      simp only [Request.destination?, hdefault, Option.elim_none]
    | some topic =>
      refine course_send (r := .sendDefault key) ?_
      simp only [Request.destination?, hdefault, Option.elim_some]
  | sendMessage topic key message =>
    show Course around t _ (t.sendMessage around topic key message)
    unfold sendMessage
    cases hpayload : t.payload message with
    | error e =>
      refine .stopped ?_
      simp only [Request.destination?, hpayload, Except.map]
    | ok payload =>
      refine course_send (r := .sendMessage topic key message) ?_
      simp only [Request.destination?, hpayload, Except.map]
  | flush => exact .flushed rfl

/-! ## What a course says -/

theorem answer_transmit_of_refused {around : Surroundings} (t : Template) (topic : String)
    (hrefused : around.library.sendRefusal?.isSome) :
    ∃ e, (t.transmit around topic).answer = .error e := by
  obtain ⟨refusal, hsend⟩ : ∃ e, around.library.send topic = .error e :=
    Library.exists_accept_eq_error hrefused _
  unfold transmit
  split
  · unfold Library.sendInTransaction
    rw [hsend]
    cases around.library.begin with
    | error e => exact ⟨e, rfl⟩
    | ok _ =>
      -- the transaction is aborted, which the library may refuse as well
      show ∃ e, (around.library.abortAfter _).answer = .error e
      unfold Library.abortAfter
      cases around.library.abort with
      | error e => exact ⟨_, rfl⟩
      | ok _ => exact ⟨_, rfl⟩
  · exact ⟨refusal, hsend⟩

/-- A transactional template does not keep a producer that cannot be prepared. -/
theorem not_ready_obtain_of_refused {around : Surroundings} {t : Template}
    (htransactional : t.isTransactional = true)
    (hrefused : around.library.prepareRefusal?.isSome) :
    ((t.obtain around).1.any fun a => a.fault?.isNone) = false := by
  obtain ⟨refusal, hprepare⟩ : ∃ e, around.library.prepare = .error e :=
    Library.exists_accept_eq_error hrefused _
  cases hkept : t.hasProducer with
  | true =>
    rw [obtain_of_kept around t hkept]
    rfl
  | false =>
    unfold obtain
    rw [if_neg (by simp [hkept])]
    simp only [htransactional, if_true, Option.any_some, Attempt.prepared]
    cases hmade : (t.factory.attempt around t.transactionIdPrefix).1.answer with
    | error e => rfl
    | ok _ =>
      simp only [Except.bind, hprepare]
      rfl

/-- What the caller and the listener are told in a step, from where its request went. -/
structure Told (key : Option String) (destination? : Option (Except AppError String))
    (s : Sending) : Prop where
  /-- A flush creates nothing and tells nobody. -/
  flushed : destination? = none → s.answer = .ok () ∧ s.attempt = none ∧ s.reports = []
  /-- A request without a topic or a payload fails with this error, and the listener does not hear
  of it. -/
  stopped : ∀ e, destination? = some (.error e) →
    s.answer = .error e ∧ s.attempt = none ∧ s.reports = []
  /-- The same when the attempt to get a producer ready fails. -/
  unready : ∀ e, s.fault? = some e → s.answer = .error e ∧ s.reports = []
  /-- With a producer, the listener hears once of the failure. -/
  failed : ∀ topic e, destination? = some (.ok topic) → s.fault? = none → s.answer = .error e →
    s.reports = [.failed topic key e.message]
  /-- A failure that the listener heard of is the one that the caller gets. -/
  returned : ∀ topic other text, .failed topic other text ∈ s.reports →
    ∃ e, s.answer = .error e ∧ e.message = text
  /-- The listener hears of a success only when there was one. -/
  sent : ∀ topic, .sent topic ∈ s.reports → s.answer = .ok ()

namespace Course

variable {around : Surroundings} {t : Template} {r : Request} {s : Sending}

/-- An attempt is made just for a request that goes to a topic when no producer is kept. -/
theorem isSome_attempt_iff (h : Course around t r s) :
    s.attempt.isSome ↔ (∃ topic, r.destination? t = some (.ok topic)) ∧ t.hasProducer = false := by
  cases h with
  | flushed hnowhere => simp [hnowhere]
  | stopped hstops => simp [hstops]
  | unready hgoes hfault => simp [hgoes, isSome_obtain]
  | delivered hgoes hready hanswer => simp [hgoes, isSome_obtain]

/-- A step leaves the producer that was kept, or that it got ready. -/
theorem hasProducer_template (h : Course around t r s) :
    s.template.hasProducer = (t.hasProducer || s.madeReady) := by
  cases h with
  | flushed hnowhere => exact (Bool.or_false _).symm
  | stopped hstops => exact (Bool.or_false _).symm
  | unready hgoes hfault => exact hasProducer_obtain around t
  | delivered hgoes hready hanswer => exact hasProducer_obtain around t

theorem empty_of_madeReady (h : Course around t r s) (hready : s.madeReady = true) :
    t.hasProducer = false := by
  obtain ⟨a, hattempt, -⟩ := (Option.any_eq_true _ _).mp hready
  exact (h.isSome_attempt_iff.mp (by rw [hattempt]; rfl)).2

theorem template_cases (h : Course around t r s) :
    s.template = t ∨ s.template = (t.obtain around).2 := by
  cases h with
  | flushed hnowhere => exact .inl rfl
  | stopped hstops => exact .inl rfl
  | unready hgoes hfault => exact .inr rfl
  | delivered hgoes hready hanswer => exact .inr rfl

theorem destination?_template (h : Course around t r s) (other : Request) :
    other.destination? s.template = other.destination? t := by
  rcases h.template_cases with heq | heq
  · rw [heq]
  · rw [heq, destination?_obtain]

theorem isTransactional_template (h : Course around t r s) :
    s.template.isTransactional = t.isTransactional := by
  rcases h.template_cases with heq | heq
  · rw [heq]
  · rw [heq, isTransactional_obtain]

/-- Without a broker no transactional template gets a producer ready. -/
theorem not_madeReady_of_refused (h : Course around t r s)
    (htransactional : t.isTransactional = true)
    (hrefused : around.library.prepareRefusal?.isSome) : s.madeReady = false := by
  cases h with
  | flushed hnowhere => rfl
  | stopped hstops => rfl
  | unready hgoes hfault => exact not_ready_obtain_of_refused htransactional hrefused
  | delivered hgoes hready hanswer => exact not_ready_obtain_of_refused htransactional hrefused

/-- Without a broker nothing is sent. -/
theorem fails_of_refused (h : Course around t r s) {topic : String}
    (hgoes : r.destination? t = some (.ok topic))
    (hrefused : around.library.sendRefusal?.isSome) : ∃ e, s.answer = .error e := by
  cases h with
  | flushed hnowhere => rw [hnowhere] at hgoes; cases hgoes
  | stopped hstops => exact ⟨_, rfl⟩
  | unready _ hfault => exact ⟨_, rfl⟩
  | delivered _ hready hanswer =>
    obtain ⟨e, he⟩ := answer_transmit_of_refused _ _ hrefused
    exact ⟨e, hanswer.trans he⟩

theorem told (h : Course around t r s) : Told r.key (r.destination? t) s := by
  cases h with
  | flushed hnowhere =>
    rw [hnowhere]
    exact
      { flushed := fun _ => ⟨rfl, rfl, rfl⟩
        stopped := by simp
        unready := by simp [Sending.fault?]
        failed := by simp
        returned := by simp
        sent := by simp }
  | stopped hstops =>
    rw [hstops]
    exact
      { flushed := by simp
        stopped := by simp
        unready := by simp [Sending.fault?]
        failed := by simp
        returned := by simp
        sent := by simp }
  | unready hgoes hfault =>
    rw [hgoes]
    exact
      { flushed := by simp
        stopped := by simp
        unready := by simp [Sending.fault?, hfault]
        failed := by simp [Sending.fault?, hfault]
        returned := by simp
        sent := by simp }
  | delivered hgoes hready hanswer =>
    rw [hgoes]
    exact
      { flushed := by simp
        stopped := by simp
        unready := by simp [Sending.fault?, hready]
        failed := by
          rintro other e hsame - rfl
          cases hsame
          rfl
        returned := fun _ _ _ hreport =>
          SendReport.exists_of_ofAnswer_eq_failed (List.mem_singleton.mp hreport).symm
        sent := fun _ hreport =>
          SendReport.eq_ok_of_ofAnswer_eq_sent (List.mem_singleton.mp hreport).symm }

end Course

/-! ## Runs -/

/-- A step of a run: what was met, what was asked, and what came of it. -/
structure Event where
  around : Surroundings
  request : Request
  sending : Sending

/-- A run: each request goes to the template that the one before has left. -/
def run : Template → List (Surroundings × Request) → List Event
  | _, [] => []
  | t, (around, r) :: rest =>
    ⟨around, r, t.perform around r⟩ :: (t.perform around r).template.run rest

/-- The laws of a step in a run that began with the template, after the `earlier` steps. -/
structure LifeCycle (t : Template) (earlier : List Event) (x : Event) : Prop extends
    Told x.request.key (x.request.destination? t) x.sending where
  /-- A producer is made just for a request that goes to a topic, as long as none was got ready. -/
  tries : x.sending.attempt.isSome ↔
    (∃ topic, x.request.destination? t = some (.ok topic)) ∧ t.hasProducer = false ∧
      ∀ y ∈ earlier, y.sending.madeReady = false
  /-- Without a broker no transactional template gets a producer ready. -/
  unprepared : t.isTransactional = true → x.around.library.prepareRefusal?.isSome →
    x.sending.madeReady = false
  /-- Without a broker nothing is sent. -/
  unsent : ∀ topic, x.request.destination? t = some (.ok topic) →
    x.around.library.sendRefusal?.isSome → ∃ e, x.sending.answer = .error e

theorem lifeCycle_perform (around : Surroundings) (t : Template) (r : Request) :
    t.LifeCycle [] ⟨around, r, t.perform around r⟩ := by
  have h := course_perform around t r
  exact
    { h.told with
      tries := by simpa using h.isSome_attempt_iff
      unprepared := h.not_madeReady_of_refused
      unsent := fun _ => h.fails_of_refused }

/-- What holds after a step holds in a run that begins with the step. -/
theorem LifeCycle.cons {around : Surroundings} {t : Template} {r : Request} {s : Sending}
    (hstep : Course around t r s) {earlier : List Event} {x : Event}
    (h : s.template.LifeCycle earlier x) : t.LifeCycle (⟨around, r, s⟩ :: earlier) x := by
  obtain ⟨htold, htries, hunprepared, hunsent⟩ := h
  rw [hstep.destination?_template] at htold htries
  rw [hstep.isTransactional_template] at hunprepared
  simp only [hstep.destination?_template] at hunsent
  refine { htold with unprepared := hunprepared, unsent := hunsent, tries := ?_ }
  rw [htries, hstep.hasProducer_template, Bool.or_eq_false_iff, List.forall_mem_cons, and_assoc]

theorem lifeCycle_of_run (t : Template) (steps : List (Surroundings × Request))
    (earlier : List Event) (x : Event) (later : List Event)
    (hsplit : t.run steps = earlier ++ x :: later) : t.LifeCycle earlier x := by
  induction steps generalizing t earlier with
  | nil =>
    rw [run] at hsplit
    cases earlier <;> cases hsplit
  | cons step rest ih =>
    rw [run] at hsplit
    cases earlier with
    | nil =>
      obtain ⟨rfl, -⟩ := List.cons.inj hsplit
      exact lifeCycle_perform step.1 t step.2
    | cons y earlier =>
      obtain ⟨rfl, hrest⟩ := List.cons.inj hsplit
      exact (ih _ _ hrest).cons (course_perform step.1 t step.2)

/-- A producer that is kept at the beginning counts like one that is got ready in the run. -/
theorem countP_madeReady_run (t : Template) (steps : List (Surroundings × Request)) :
    t.hasProducer.toNat + (t.run steps).countP (fun x => x.sending.madeReady) ≤ 1 := by
  induction steps generalizing t with
  | nil =>
    rw [run, List.countP_nil]
    exact Bool.toNat_le _
  | cons step rest ih =>
    have hstep := course_perform step.1 t step.2
    have hrest := ih (t.perform step.1 step.2).template
    rw [hstep.hasProducer_template] at hrest
    rw [run, List.countP_cons]
    cases hready : (t.perform step.1 step.2).madeReady with
    | false =>
      rw [hready, Bool.or_false] at hrest
      simpa [hready] using hrest
    | true =>
      rw [hready, Bool.or_true, Bool.toNat_true] at hrest
      rw [hstep.empty_of_madeReady hready]
      simp only [if_true, Bool.toNat_false]
      omega

/-- Every step of every run obeys the laws, and at most one producer is got ready. -/
theorem run_obeys_life_cycle (t : Template) (steps : List (Surroundings × Request)) :
    (∀ earlier x later, t.run steps = earlier ++ x :: later → t.LifeCycle earlier x) ∧
      t.hasProducer.toNat + (t.run steps).countP (fun x => x.sending.madeReady) ≤ 1 :=
  ⟨lifeCycle_of_run t steps, countP_madeReady_run t steps⟩

/-- A template whose clients read a file of authorities. -/
def authorityReader : Template :=
  let stores : Tls.Stores := { Tls.Stores.none with authority := some "ca.pem" }
  .new .assembled (.new .assembled { Client.empty with
    tls := some { Tls.Bundle.systemDefault with stores } })

/-- Four requests while the file is missing, none of which goes well, and two when it is there. -/
def lateFile : List (Surroundings × Request) :=
  [(.offline (.ofFiles []), .sendDefault (some "k")),
   (.offline (.ofFiles []), .sendMessage "t" none (.error "no form")),
   (.offline (.ofFiles []), .send "t" (some "k")),
   (.offline (.ofFiles []), .flush),
   (.offline (.ofFiles [("ca.pem", "")]), .send "t" (some "k")),
   (.offline (.ofFiles [("ca.pem", "")]), .sendMessage "u" none (.ok .null))]

/-- The fifth request makes the producer, after an attempt that failed; the listener hears that
nothing was sent. -/
theorem run_obeys_life_cycle_lateFile :
    ∃ earlier x later, authorityReader.run lateFile = earlier ++ x :: later ∧
      (earlier.map fun y => y.sending.attempt.isSome) = [false, false, true, false] ∧
      x.sending.attempt.isSome ∧
      ∃ e, x.sending.answer = .error e ∧ x.sending.reports = [.failed "t" (some "k") e.message] := by
  obtain ⟨earlier, x, later, hsplit, hattempts, hready, hrequest, hfault, hrefused⟩ :
      ∃ earlier x later, authorityReader.run lateFile = earlier ++ x :: later ∧
        (earlier.map fun y => y.sending.attempt.isSome) = [false, false, true, false] ∧
        (∀ y ∈ earlier, y.sending.madeReady = false) ∧ x.request = .send "t" (some "k") ∧
        x.sending.fault? = none ∧ x.around.library.sendRefusal?.isSome := by
    refine ⟨[_, _, _, _], _, [_], rfl, ?_, ?_, rfl, ?_, rfl⟩
    · decide +kernel
    · decide +kernel
    · decide +kernel
  have hlife := (run_obeys_life_cycle authorityReader lateFile).1 earlier x later hsplit
  have hgoes : x.request.destination? authorityReader = some (.ok "t") := by
    rw [hrequest]
    rfl
  obtain ⟨e, hanswer⟩ := hlife.unsent "t" hgoes hrefused
  refine ⟨earlier, x, later, hsplit, hattempts, ?_, e, hanswer, ?_⟩
  · exact hlife.tries.mpr ⟨⟨"t", hgoes⟩, rfl, hready⟩
  · rw [hlife.failed "t" e hgoes hfault hanswer, hrequest]
    rfl

end Template

end ClientWiring.Kafka
