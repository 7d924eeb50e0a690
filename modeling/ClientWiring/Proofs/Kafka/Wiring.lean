import ClientWiring.Proofs.Kafka.Steps

/-!
# Report and wiring of an assembly

However many components the caller supplies, the report of a successful assembly has the nine
components in their order.  A component counts as created exactly if it is there and was not
supplied:

    c.report = Component.inOrder.map fun k => ⟨k, .of (supplied.supplies k) (c.has k)⟩

What was supplied is returned as it was given, and what was created is put together from the
components that are returned beside it                                      (wired_of_assemble).
-/

namespace ClientWiring.Kafka

/-! ## What a report has to say -/

/-- How a step has to end: its component is created if it is there and nobody supplied it. -/
def Outcome.of (isSupplied isThere : Bool) : Outcome :=
  if !isSupplied && isThere then .created else .skipped

variable {ε : Type}

/-- Whether the caller supplies a component. -/
def Supplied.supplies (supplied : Supplied ε) : Component → Bool
  | .connectionDetails => supplied.endpoints.isSome
  | .jaasInitializer => supplied.login.isSome
  | .producerListener => supplied.listener.isSome
  | .producerFactory => supplied.producerFactory.isSome
  | .consumerFactory => supplied.consumerFactory.isSome
  | .template => !supplied.templates.isEmpty
  | .transactionManager => supplied.transactionManager.isSome
  | .admin => supplied.admin.isSome
  | .retryTopics => supplied.retryTopics.isSome

/-- Whether a component is there; some of them always are. -/
def Components.has (c : Components) : Component → Bool
  | .jaasInitializer => c.login.isSome
  | .template => !c.templates.isEmpty
  | .transactionManager => c.transactionManager.isSome
  | .retryTopics => c.retryTopics.isSome
  | .connectionDetails | .producerListener | .producerFactory | .consumerFactory | .admin => true

/-- When a component has to be there that nobody supplied. -/
def Component.IsDue (s : KafkaSettings) (templates : List Template) : Component → Prop
  | .jaasInitializer => s.jaas.enabled = true
  | .transactionManager => ∃ p, s.producer.transactionIdPrefix = some p ∧ p ≠ ""
  | .retryTopics => s.retry.enabled = true ∧ ∃ t, templates = [t]
  | .connectionDetails | .producerListener | .producerFactory | .consumerFactory | .template
  | .admin => True

/-! ## What the components have to be -/

/-- Supplied components are returned as they were given. -/
structure Supplied.Kept (supplied : Supplied ε) (c : Components) : Prop where
  endpoints : ∀ e, supplied.endpoints = some e → c.endpoints = e
  login : ∀ l, supplied.login = some l → c.login = some l
  listener : ∀ l, supplied.listener = some l → c.listener = l
  producerFactory : ∀ f, supplied.producerFactory = some f → c.producerFactory = f
  consumerFactory : ∀ f, supplied.consumerFactory = some f → c.consumerFactory = f
  templates : supplied.templates ≠ [] → c.templates = supplied.templates
  transactionManager : ∀ m, supplied.transactionManager = some m → c.transactionManager = some m
  admin : ∀ a, supplied.admin = some a → c.admin = a
  retryTopics : ∀ r, supplied.retryTopics = some r → c.retryTopics = some r

/-- Created components are put together from those that are returned beside them. -/
structure Supplied.Wired (supplied : Supplied ε) (s : KafkaSettings) (c : Components) : Prop where
  /-- The created template has the converter of the caller if there is exactly one. -/
  template : supplied.templates = [] → ∃ t, c.templates = [t] ∧
    t.factory = c.producerFactory ∧ t.listener = c.listener ∧
    ∀ k, t.converter = some k ↔ supplied.converters = [k]
  transactionManager : supplied.transactionManager = none →
    ∀ m, c.transactionManager = some m → m.factory = c.producerFactory
  retryTopics : supplied.retryTopics = none → ∀ r, c.retryTopics = some r →
    c.templates = [r.template] ∧ r = .ofSettings s.retry r.template

/-! ## Steps -/

theorem single?_eq_some_iff {α : Type} (xs : List α) (x : α) : single? xs = some x ↔ xs = [x] := by
  cases xs with
  | nil => simp [single?]
  | cons y rest => cases rest <;> simp [single?]

theorem isSome_nonEmpty_iff (value : Option String) :
    (Client.nonEmpty value).isSome = true ↔ ∃ p, value = some p ∧ p ≠ "" := by
  cases value <;> simp [Client.nonEmpty]

namespace Made

variable {α : Type}

theorem outcome_orElse (supplied : Option α) (create : Unit → α) :
    (orElse supplied create).outcome = .of supplied.isSome true := by
  cases supplied <;> rfl

theorem component_orElse {supplied : Option α} {given : α} (h : supplied = some given)
    (create : Unit → α) : (orElse supplied create).component = given := by
  rw [h]
  rfl

/-- A step that may leave its component out takes the supplied one, and else has one exactly if it
is due. -/
structure Regular (made : Made (Option α)) (supplied : Option α) (due : Prop) : Prop where
  outcome : made.outcome = .of supplied.isSome made.component.isSome
  kept : ∀ given, supplied = some given → made.component = some given
  isSome_iff : supplied.isSome = false → (made.component.isSome = true ↔ due)

theorem Regular.supplied (given : α) (due : Prop) :
    Regular ⟨some given, .skipped⟩ (some given) due where
  outcome := rfl
  kept := by
    intro a h
    exact h
  isSome_iff := by
    intro h
    cases h

theorem Regular.created {due : Prop} (a : α) (h : due) : Regular ⟨some a, .created⟩ none due where
  outcome := rfl
  kept := by
    intro given hgiven
    cases hgiven
  isSome_iff := by
    intro _
    exact ⟨fun _ => h, fun _ => rfl⟩

theorem Regular.leftOut {due : Prop} (h : ¬due) :
    Regular (⟨none, .skipped⟩ : Made (Option α)) none due where
  outcome := rfl
  kept := by
    intro given hgiven
    cases hgiven
  isSome_iff := by
    intro _
    constructor
    · intro hsome
      cases hsome
    · intro hdue
      exact absurd hdue h

end Made

namespace Assembly

theorem endpoints_eq_ok {registry : Option Tls.Registry} {s : KafkaSettings}
    {supplied : Option Endpoints} {made : Made Endpoints}
    (h : endpoints registry s supplied = .ok made) :
    made.outcome = .of supplied.isSome true ∧ ∀ e, supplied = some e → made.component = e := by
  cases supplied with
  | some e =>
    cases h
    exact ⟨rfl, fun e h => Option.some.inj h⟩
  | none =>
    simp only [endpoints] at h
    split at h
    · cases h
      exact ⟨rfl, fun e h => nomatch h⟩
    · cases h

theorem regular_login {fs : FileSystem} {s : JaasSettings} {supplied : Option Login}
    {made : Made (Option Login)} (h : login fs s supplied = .ok made) :
    made.Regular supplied (s.enabled = true) := by
  cases supplied with
  | some l =>
    cases h
    exact .supplied l _
  | none =>
    simp only [login] at h
    split at h
    · next hon =>
      split at h
      · cases h
        exact .created _ hon
      · cases h
    · next hoff =>
      cases h
      exact .leftOut hoff

/-- The manager is due as soon as there is a prefix, whatever the factory in use is. -/
theorem regular_transactionManager {s : ProducerSettings} {factory : ProducerFactory}
    {supplied : Option TransactionManager} {made : Made (Option TransactionManager)}
    (h : transactionManager s factory supplied = .ok made) :
    made.Regular supplied ((Client.nonEmpty s.transactionIdPrefix).isSome = true) := by
  cases supplied with
  | some m =>
    cases h
    exact .supplied m _
  | none =>
    simp only [transactionManager] at h
    split at h
    · next hdue =>
      split at h
      · cases h
        exact .created _ hdue
      · cases h
    · next hdue =>
      cases h
      exact .leftOut hdue

/-- A manager that was created is one over the factory of the assembly. -/
theorem factory_transactionManager {s : ProducerSettings} {factory : ProducerFactory}
    {made : Made (Option TransactionManager)} (h : transactionManager s factory none = .ok made)
    {m : TransactionManager} (hm : made.component = some m) : m.factory = factory := by
  simp only [transactionManager, TransactionManager.ofFactory] at h
  split at h
  · split at h
    · next made' hmade =>
      cases h
      split at hmade
      · cases hmade
        cases hm
        rfl
      · cases hmade
    · cases h
  · cases h
    cases hm

theorem regular_retryTopics (s : RetrySettings) (templates : List Template)
    (supplied : Option RetryTopics) :
    (retryTopics s templates supplied).Regular supplied
      (s.enabled = true ∧ ∃ t, templates = [t]) := by
  cases supplied with
  | some r => exact .supplied r _
  | none =>
    simp only [retryTopics]
    split
    · next t ht =>
      have hsingle : templates = [t] := (single?_eq_some_iff templates t).mp ht
      split
      · next hon => exact .created _ ⟨hon, t, hsingle⟩
      · next hoff => exact .leftOut fun hdue => hoff hdue.1
    · next hnone =>
      refine .leftOut ?_
      rintro ⟨-, t, hsingle⟩
      rw [(single?_eq_some_iff templates t).mpr hsingle] at hnone
      cases hnone

/-- Retry topics that were created are what the settings say, over the single template. -/
theorem template_retryTopics {s : RetrySettings} {templates : List Template} {r : RetryTopics}
    (h : (retryTopics s templates none).component = some r) :
    templates = [r.template] ∧ r = .ofSettings s r.template := by
  simp only [retryTopics] at h
  split at h
  · next t ht =>
    split at h
    · cases h
      exact ⟨(single?_eq_some_iff templates t).mp ht, rfl⟩
    · cases h
  · cases h

theorem outcome_templates (s : TemplateSettings) (factory : ProducerFactory) (listener : Listener)
    (converters : List Converter) (supplied : List Template) :
    (templates s factory listener converters supplied).outcome =
      .of (!supplied.isEmpty)
        (!(templates s factory listener converters supplied).component.isEmpty) := by
  cases supplied <;> rfl

theorem templates_ne_nil (s : TemplateSettings) (factory : ProducerFactory) (listener : Listener)
    (converters : List Converter) (supplied : List Template) :
    (templates s factory listener converters supplied).component.isEmpty = false := by
  cases supplied <;> rfl

theorem component_templates {supplied : List Template} (h : supplied ≠ []) (s : TemplateSettings)
    (factory : ProducerFactory) (listener : Listener) (converters : List Converter) :
    (templates s factory listener converters supplied).component = supplied := by
  cases supplied with
  | nil => exact absurd rfl h
  | cons t rest => rfl

/-! ## Components -/

section

variable {fs : FileSystem} {registry : Option Tls.Registry} {s : KafkaSettings}
  {supplied : Supplied ε} {e : Made Endpoints} {l : Made (Option Login)}
  {m : Made (Option TransactionManager)}
  (he : endpoints registry s supplied.endpoints = .ok e)
  (hl : login fs s.jaas supplied.login = .ok l)
  (hm : transactionManager s.producer (finalProducerFactory s supplied e l).component.1
    supplied.transactionManager = .ok m)

include he hl hm in
theorem report_finish :
    (finish s supplied e l m).report = Component.inOrder.map fun k =>
      ⟨k, .of (supplied.supplies k) ((finish s supplied e l m).has k)⟩ := by
  have hendpoints := (endpoints_eq_ok he).1
  have hlogin := (regular_login hl).outcome
  have hlistener := Made.outcome_orElse supplied.listener fun _ => Listener.default
  have hproducer : (finalProducerFactory s supplied e l).outcome =
      .of supplied.producerFactory.isSome true := by
    rw [← Option.isSome_map]
    exact Made.outcome_orElse _ _
  have hconsumer : (finalConsumerFactory s supplied e l).outcome =
      .of supplied.consumerFactory.isSome true := by
    rw [← Option.isSome_map]
    exact Made.outcome_orElse _ _
  have htemplates : (finalTemplates s supplied e l).outcome = _ := outcome_templates ..
  have hmanager := (regular_transactionManager hm).outcome
  have hadmin : (admin s e.component l.component supplied.admin).outcome =
      .of supplied.admin.isSome true := Made.outcome_orElse _ _
  have hretry := (regular_retryTopics s.retry (finalTemplates s supplied e l).component
    supplied.retryTopics).outcome
  show ([⟨.connectionDetails, e.outcome⟩, ⟨.jaasInitializer, l.outcome⟩,
    ⟨.producerListener, (listener supplied.listener).outcome⟩,
    ⟨.producerFactory, (finalProducerFactory s supplied e l).outcome⟩,
    ⟨.consumerFactory, (finalConsumerFactory s supplied e l).outcome⟩,
    ⟨.template, (finalTemplates s supplied e l).outcome⟩, ⟨.transactionManager, m.outcome⟩,
    ⟨.admin, (admin s e.component l.component supplied.admin).outcome⟩,
    ⟨.retryTopics, (retryTopics s.retry (finalTemplates s supplied e l).component
      supplied.retryTopics).outcome⟩] : Report) = _
  unfold listener
  rw [hendpoints, hlogin, hlistener, hproducer, hconsumer, htemplates, hmanager, hadmin, hretry]
  rfl

include hl hm in
/-- What nobody supplied is there exactly if it is due. -/
theorem has_finish (k : Component) (hk : supplied.supplies k = false) :
    (finish s supplied e l m).has k = true ↔
      k.IsDue s (finish s supplied e l m).templates := by
  cases k with
  | jaasInitializer => exact (regular_login hl).isSome_iff hk
  | transactionManager =>
    show _ ↔ ∃ p, s.producer.transactionIdPrefix = some p ∧ p ≠ ""
    rw [← isSome_nonEmpty_iff]
    exact (regular_transactionManager hm).isSome_iff hk
  | retryTopics => exact (regular_retryTopics _ _ _).isSome_iff hk
  | template =>
    have hsome : (finish s supplied e l m).templates.isEmpty = false := templates_ne_nil ..
    show (!(finish s supplied e l m).templates.isEmpty) = true ↔ True
    rw [hsome]
    exact ⟨fun _ => trivial, fun _ => rfl⟩
  | connectionDetails | producerListener | producerFactory | consumerFactory | admin =>
    exact ⟨fun _ => trivial, fun _ => rfl⟩

include he hl hm in
theorem kept_finish : supplied.Kept (finish s supplied e l m) where
  endpoints := (endpoints_eq_ok he).2
  login := (regular_login hl).kept
  listener := fun given h => Made.component_orElse h _
  producerFactory := by
    intro f h
    show (producerFactory s _ _ _ supplied.producerFactory).component.1 = f
    rw [h]
    rfl
  consumerFactory := by
    intro f h
    show (consumerFactory s _ _ _ supplied.consumerFactory).component.1 = f
    rw [h]
    rfl
  templates := fun h => component_templates h ..
  transactionManager := (regular_transactionManager hm).kept
  admin := fun given h => Made.component_orElse h _
  retryTopics := (regular_retryTopics _ _ _).kept

include hm in
theorem wired_finish : supplied.Wired s (finish s supplied e l m) where
  template := by
    intro hnone
    refine ⟨defaultTemplate s.template (finish s supplied e l m).producerFactory
      (finish s supplied e l m).listener supplied.converters, ?_, rfl, rfl, fun k => ?_⟩
    · show (templates _ _ _ _ supplied.templates).component = _
      rw [hnone]
      rfl
    · exact single?_eq_some_iff supplied.converters k
  transactionManager := by
    intro hnone manager hmanager
    rw [hnone] at hm
    exact factory_transactionManager hm hmanager
  retryTopics := by
    intro hnone r hr
    have hmade : (retryTopics s.retry (finish s supplied e l m).templates
        supplied.retryTopics).component = some r := hr
    rw [hnone] at hmade
    exact template_retryTopics hmade

end

end Assembly

/-- A successful assembly reports its nine steps in their order, creates what is due and was not
supplied, keeps what was supplied, and puts components together from the ones it returns. -/
theorem wired_of_assemble (fs : FileSystem) (registry : Option Tls.Registry) (s : KafkaSettings)
    (supplied : Supplied ε) (c : Components)
    (h : (assemble fs registry s supplied).answer = .ok c) :
    c.report.map (fun step => step.component.name) =
      ["connection_details", "jaas_initializer", "producer_listener", "producer_factory",
       "consumer_factory", "template", "transaction_manager", "admin",
       "retry_topic_configuration"] ∧
    (c.report = Component.inOrder.map fun k => ⟨k, .of (supplied.supplies k) (c.has k)⟩) ∧
    (∀ k, supplied.supplies k = false → (c.has k = true ↔ k.IsDue s c.templates)) ∧
    supplied.Kept c ∧ supplied.Wired s c := by
  obtain ⟨e, l, m, he, hl, hm, rfl⟩ := (assemble_eq_ok_iff fs registry s supplied c).mp h
  have hreport := Assembly.report_finish he hl hm
  refine ⟨?_, hreport, Assembly.has_finish hl hm, Assembly.kept_finish he hl hm,
    Assembly.wired_finish hm⟩
  rw [hreport]
  rfl

/-- Settings with transactions and retry topics, and without a login. -/
def transactionalSettings : KafkaSettings :=
  { KafkaSettings.default with
    producer := { ProducerSettings.default with transactionIdPrefix := some "tx-" }
    retry := { RetrySettings.default with enabled := true } }

/-- An admin and a converter are supplied. -/
def adminAndConverter : Supplied Unit :=
  { Supplied.nothing with admin := some (.new .empty), converters := [.json] }

/-- Template, manager and retry topics are created over one another. -/
theorem wired_of_assemble_transactional :
    ∃ c t m r,
      (assemble (.ofFiles []) none transactionalSettings adminAndConverter).answer = .ok c ∧
      c.report = [⟨.connectionDetails, .created⟩, ⟨.jaasInitializer, .skipped⟩,
        ⟨.producerListener, .created⟩, ⟨.producerFactory, .created⟩, ⟨.consumerFactory, .created⟩,
        ⟨.template, .created⟩, ⟨.transactionManager, .created⟩, ⟨.admin, .skipped⟩,
        ⟨.retryTopics, .created⟩] ∧
      c.templates = [t] ∧ t.factory = c.producerFactory ∧ t.converter = some .json ∧
      c.transactionManager = some m ∧ m.factory = c.producerFactory ∧
      c.retryTopics = some r ∧ r.template = t := by
  have hsome : (assemble (.ofFiles []) none transactionalSettings
      adminAndConverter).answer.toOption.isSome = true := by
    decide +kernel
  cases hc : (assemble (.ofFiles []) none transactionalSettings adminAndConverter).answer with
  | error e =>
    rw [hc] at hsome
    cases hsome
  | ok c =>
    obtain ⟨-, hreport, hdue, -, hwired⟩ :=
      wired_of_assemble (.ofFiles []) none transactionalSettings adminAndConverter c hc
    obtain ⟨t, htemplates, hfactory, -, hconverter⟩ := hwired.template rfl
    have hlogin : ¬c.has .jaasInitializer = true := fun h =>
      Bool.false_ne_true ((hdue .jaasInitializer rfl).mp h)
    have htemplate : c.has .template = true := (hdue .template rfl).mpr trivial
    have hmanager : c.has .transactionManager = true :=
      (hdue .transactionManager rfl).mpr ⟨"tx-", rfl, by decide⟩
    have hretry : c.has .retryTopics = true := (hdue .retryTopics rfl).mpr ⟨rfl, t, htemplates⟩
    obtain ⟨m, hm⟩ := Option.isSome_iff_exists.mp hmanager
    obtain ⟨r, hr⟩ := Option.isSome_iff_exists.mp hretry
    have hover := (hwired.retryTopics rfl r hr).1
    rw [htemplates] at hover
    refine ⟨c, t, m, r, rfl, ?_, htemplates, hfactory, (hconverter .json).mpr rfl, hm,
      hwired.transactionManager rfl m hm, hr, (List.cons.inj hover).1.symm⟩
    rw [hreport]
    simp only [Component.inOrder, List.map_cons, List.map_nil, hlogin, htemplate,
      hmanager, hretry]
    rfl

end ClientWiring.Kafka
