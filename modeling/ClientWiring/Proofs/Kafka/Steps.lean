import ClientWiring.Kafka.Assembly

/-!
# The steps of an assembly

Of the nine steps three can fail.  An assembly succeeds exactly if these three do, and then its
components are put together from the answers of the steps:

    (assemble fs registry s supplied).answer = .ok c ↔
      ∃ endpoints login manager, … ∧ c = Assembly.finish s supplied endpoints login manager
                                                                        (assemble_eq_ok_iff)

An assembly fails with the first of the three that fails (answer_assemble).  Without components of
the caller the transaction manager cannot fail                         (answer_assemble_nothing).
-/

namespace ClientWiring.Kafka

namespace Assembly

variable {ε : Type}

/-- The producer factory of an assembly. -/
def finalProducerFactory (s : KafkaSettings) (supplied : Supplied ε) (endpoints : Made Endpoints)
    (login : Made (Option Login)) : Made (ProducerFactory × List ε) :=
  producerFactory s endpoints.component login.component supplied.producerCustomizers
    supplied.producerFactory

/-- The consumer factory of an assembly. -/
def finalConsumerFactory (s : KafkaSettings) (supplied : Supplied ε) (endpoints : Made Endpoints)
    (login : Made (Option Login)) : Made (ConsumerFactory × List ε) :=
  consumerFactory s endpoints.component login.component supplied.consumerCustomizers
    supplied.consumerFactory

/-- The templates of an assembly. -/
def finalTemplates (s : KafkaSettings) (supplied : Supplied ε) (endpoints : Made Endpoints)
    (login : Made (Option Login)) : Made (List Template) :=
  templates s.template (finalProducerFactory s supplied endpoints login).component.1
    (listener supplied.listener).component supplied.converters supplied.templates

/-- The components that come out once the three steps that can fail have succeeded. -/
def finish (s : KafkaSettings) (supplied : Supplied ε) (endpoints : Made Endpoints)
    (login : Made (Option Login)) (manager : Made (Option TransactionManager)) : Components :=
  let producer := finalProducerFactory s supplied endpoints login
  let consumer := finalConsumerFactory s supplied endpoints login
  let templates := finalTemplates s supplied endpoints login
  let admin := admin s endpoints.component login.component supplied.admin
  let retry := retryTopics s.retry templates.component supplied.retryTopics
  { endpoints := endpoints.component
    login := login.component
    listener := (listener supplied.listener).component
    producerFactory := producer.component.1
    consumerFactory := consumer.component.1
    templates := templates.component
    transactionManager := manager.component
    admin := admin.component
    retryTopics := retry.component
    report :=
      [⟨.connectionDetails, endpoints.outcome⟩, ⟨.jaasInitializer, login.outcome⟩,
       ⟨.producerListener, (listener supplied.listener).outcome⟩,
       ⟨.producerFactory, producer.outcome⟩, ⟨.consumerFactory, consumer.outcome⟩,
       ⟨.template, templates.outcome⟩, ⟨.transactionManager, manager.outcome⟩,
       ⟨.admin, admin.outcome⟩, ⟨.retryTopics, retry.outcome⟩] }

end Assembly

/-- Without customizers a factory stays as it was made. -/
theorem Customizer.run_nil {σ ε : Type} (factory : σ) :
    Customizer.run ([] : List (Customizer σ ε)) factory = (factory, []) := by
  unfold Customizer.run byRank
  rw [List.mergeSort_nil]
  rfl

open Assembly

variable {ε : Type}

/-- An assembly succeeds exactly if endpoints, login and transaction manager do. -/
theorem assemble_eq_ok_iff (fs : FileSystem) (registry : Option Tls.Registry) (s : KafkaSettings)
    (supplied : Supplied ε) (c : Components) :
    (assemble fs registry s supplied).answer = .ok c ↔
      ∃ endpoints login manager,
        Assembly.endpoints registry s supplied.endpoints = .ok endpoints ∧
        Assembly.login fs s.jaas supplied.login = .ok login ∧
        Assembly.transactionManager s.producer
          (finalProducerFactory s supplied endpoints login).component.1
          supplied.transactionManager = .ok manager ∧
        c = finish s supplied endpoints login manager := by
  unfold assemble
  cases he : Assembly.endpoints registry s supplied.endpoints with
  | error e => simp
  | ok endpoints =>
    cases hl : Assembly.login fs s.jaas supplied.login with
    | error e => simp
    | ok login =>
      dsimp only
      split
      next e hm =>
        have herror : Assembly.transactionManager s.producer
            (finalProducerFactory s supplied endpoints login).component.1
            supplied.transactionManager = .error e := hm
        constructor
        · intro h
          cases h
        · rintro ⟨endpoints', login', manager, he', hl', hm', -⟩
          cases he'
          cases hl'
          rw [herror] at hm'
          cases hm'
      next manager hm =>
        have hok : Assembly.transactionManager s.producer
            (finalProducerFactory s supplied endpoints login).component.1
            supplied.transactionManager = .ok manager := hm
        constructor
        · intro h
          cases h
          exact ⟨endpoints, login, manager, rfl, rfl, hok, rfl⟩
        · rintro ⟨endpoints', login', manager', he', hl', hm', rfl⟩
          cases he'
          cases hl'
          rw [hok] at hm'
          cases hm'
          rfl

/-- An assembly takes the three steps that can fail one after the other, and then all the others. -/
theorem answer_assemble (fs : FileSystem) (registry : Option Tls.Registry) (s : KafkaSettings)
    (supplied : Supplied ε) :
    (assemble fs registry s supplied).answer = (do
      let endpoints ← Assembly.endpoints registry s supplied.endpoints
      let login ← Assembly.login fs s.jaas supplied.login
      let manager ← Assembly.transactionManager s.producer
        (finalProducerFactory s supplied endpoints login).component.1 supplied.transactionManager
      .ok (finish s supplied endpoints login manager)) := by
  unfold assemble
  cases Assembly.endpoints registry s supplied.endpoints with
  | error e => rfl
  | ok endpoints =>
    cases Assembly.login fs s.jaas supplied.login with
    | error e => rfl
    | ok login =>
      dsimp only
      split
      next e hm =>
        have herror : Assembly.transactionManager s.producer
            (finalProducerFactory s supplied endpoints login).component.1
            supplied.transactionManager = .error e := hm
        simp only [bind, Except.bind, herror]
      next manager hm =>
        have hok : Assembly.transactionManager s.producer
            (finalProducerFactory s supplied endpoints login).component.1
            supplied.transactionManager = .ok manager := hm
        simp only [bind, Except.bind, hok]
        rfl

/-! ## Nothing supplied -/

namespace Assembly

/-- The transaction manager over the factory that the settings describe. -/
def defaultManager (s : KafkaSettings) (endpoints : Made Endpoints)
    (login : Made (Option Login)) : Made (Option TransactionManager) :=
  if (Client.nonEmpty s.producer.transactionIdPrefix).isSome then
    ⟨some ⟨plainProducerFactory s endpoints.component login.component, .ofSeconds 30⟩, .created⟩
  else ⟨none, .skipped⟩

/-- The template over the factory that the settings describe. -/
def plainTemplate (s : KafkaSettings) (endpoints : Made Endpoints) (login : Made (Option Login)) :
    Template :=
  defaultTemplate s.template (plainProducerFactory s endpoints.component login.component)
    .default []

/-- The components that the settings describe, once there are endpoints and a login. -/
def defaultComponents (s : KafkaSettings) (endpoints : Made Endpoints)
    (login : Made (Option Login)) : Components :=
  let manager := defaultManager s endpoints login
  let retry := retryTopics s.retry [plainTemplate s endpoints login] none
  { endpoints := endpoints.component
    login := login.component
    listener := .default
    producerFactory := plainProducerFactory s endpoints.component login.component
    consumerFactory := ⟨client s endpoints.component login.component .consumer⟩
    templates := [plainTemplate s endpoints login]
    transactionManager := manager.component
    admin := adminOfSettings s.admin (client s endpoints.component login.component .admin)
    retryTopics := retry.component
    report :=
      [⟨.connectionDetails, endpoints.outcome⟩, ⟨.jaasInitializer, login.outcome⟩,
       ⟨.producerListener, .created⟩, ⟨.producerFactory, .created⟩, ⟨.consumerFactory, .created⟩,
       ⟨.template, .created⟩, ⟨.transactionManager, manager.outcome⟩, ⟨.admin, .created⟩,
       ⟨.retryTopics, retry.outcome⟩] }

theorem finalProducerFactory_nothing (s : KafkaSettings) (endpoints : Made Endpoints)
    (login : Made (Option Login)) :
    finalProducerFactory s (Supplied.nothing : Supplied ε) endpoints login =
      ⟨(plainProducerFactory s endpoints.component login.component, []), .created⟩ :=
  congrArg (Made.mk · .created) (Customizer.run_nil _)

theorem finalConsumerFactory_nothing (s : KafkaSettings) (endpoints : Made Endpoints)
    (login : Made (Option Login)) :
    finalConsumerFactory s (Supplied.nothing : Supplied ε) endpoints login =
      ⟨(⟨client s endpoints.component login.component .consumer⟩, []), .created⟩ :=
  congrArg (Made.mk · .created) (Customizer.run_nil _)

theorem finalTemplates_nothing (s : KafkaSettings) (endpoints : Made Endpoints)
    (login : Made (Option Login)) :
    finalTemplates s (Supplied.nothing : Supplied ε) endpoints login =
      ⟨[plainTemplate s endpoints login], .created⟩ := by
  unfold finalTemplates
  rw [finalProducerFactory_nothing]
  rfl

theorem finish_nothing (s : KafkaSettings) (endpoints : Made Endpoints)
    (login : Made (Option Login)) :
    finish s (Supplied.nothing : Supplied ε) endpoints login (defaultManager s endpoints login) =
      defaultComponents s endpoints login := by
  unfold finish
  simp only [finalProducerFactory_nothing, finalConsumerFactory_nothing, finalTemplates_nothing]
  rfl

/-- The factory has the prefix that the manager asks for. -/
theorem transactionManager_plainProducerFactory (s : KafkaSettings) (endpoints : Made Endpoints)
    (login : Made (Option Login)) :
    transactionManager s.producer
        (plainProducerFactory s endpoints.component login.component) none =
      .ok (defaultManager s endpoints login) := by
  have htransactional : (plainProducerFactory s endpoints.component login.component).isTransactional =
      (Client.nonEmpty s.producer.transactionIdPrefix).isSome := rfl
  unfold transactionManager defaultManager TransactionManager.ofFactory
  rw [htransactional]
  cases (Client.nonEmpty s.producer.transactionIdPrefix).isSome <;> rfl

end Assembly

/-- Without components of the caller only endpoints and login can fail. -/
theorem answer_assemble_nothing (fs : FileSystem) (registry : Option Tls.Registry)
    (s : KafkaSettings) :
    (assemble fs registry s (Supplied.nothing : Supplied ε)).answer = (do
      let endpoints ← Assembly.endpoints registry s none
      let login ← Assembly.login fs s.jaas none
      .ok (defaultComponents s endpoints login)) := by
  rw [answer_assemble]
  simp only [finalProducerFactory_nothing]
  show (do
    let endpoints ← Assembly.endpoints registry s none
    let login ← Assembly.login fs s.jaas none
    let manager ← Assembly.transactionManager s.producer
      (plainProducerFactory s endpoints.component login.component) none
    .ok (finish s (Supplied.nothing : Supplied ε) endpoints login manager)) = _
  simp only [transactionManager_plainProducerFactory, ← finish_nothing (ε := ε)]
  rfl

end ClientWiring.Kafka
