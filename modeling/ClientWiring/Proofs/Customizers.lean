import ClientWiring.Mongo.ClientFactory
import ClientWiring.Proofs.Kafka.Steps
import ClientWiring.Proofs.Ranked

/-!
# Customizers run in ascending rank, ties as registered

The caller may register any number of customizers, and each of them may do anything to what it is
given.  There is one arrangement of them in ascending rank that leaves those of one rank as they were
registered, and they run in this arrangement: on empty settings until one fails (MongoDB), or on the
factory that was made for the settings (Kafka).  Nothing else about the registration matters: it may
be changed in every way that keeps the customizers of each rank in their order
                                                                  (customizers_run_by_rank).
-/

namespace ClientWiring

namespace Mongo

/-- Customizers run one after the other from the given settings until one fails. -/
inductive Customizer.Runs :
    ClientSettings → List Customizer → Except AppError ClientSettings → Prop
  | done (s : ClientSettings) : Runs s [] (.ok s)
  | step {s next : ClientSettings} {c : Customizer} {rest : List Customizer}
      {answer : Except AppError ClientSettings} :
      c.apply s = (next, .ok ()) → Runs next rest answer → Runs s (c :: rest) answer
  | stop {s next : ClientSettings} {c : Customizer} {e : AppError} (rest : List Customizer) :
      c.apply s = (next, .error e) → Runs s (c :: rest) (.error e)

/-- The run of a list of customizers exists, and is the only one. -/
theorem Customizer.runs_iff (s : ClientSettings) (customizers : List Customizer)
    (answer : Except AppError ClientSettings) :
    Customizer.Runs s customizers answer ↔ Customizer.runInOrder s customizers = answer := by
  constructor
  · intro h
    induction h with
    | done s => rfl
    | step hc _ ih => rw [runInOrder, hc]; exact ih
    | stop rest hc => rw [runInOrder, hc]
  · rintro rfl
    induction customizers generalizing s with
    | nil => exact .done s
    | cons c rest ih =>
      obtain ⟨next, outcome, hc⟩ : ∃ next outcome, c.apply s = (next, outcome) := ⟨_, _, rfl⟩
      rw [runInOrder, hc]
      cases outcome with
      | ok _ => exact .step hc (ih next)
      | error e => exact .stop rest hc

/-- The settings of a factory come from its customizers in ascending rank, and from nothing else. -/
structure ClientFactory.RunsByRank (f : ClientFactory) : Prop where
  arranged : ∃! ordered, InRankOrder Customizer.rank f.customizers ordered
  /-- The settings, or the error. -/
  answer : ∀ ordered, InRankOrder Customizer.rank f.customizers ordered → ∀ answer,
    Customizer.Runs .empty ordered answer ↔ f.settings = answer
  ties : ∀ g : ClientFactory, SameTies Customizer.rank f.customizers g.customizers →
    g.settings = f.settings

theorem ClientFactory.runsByRank (f : ClientFactory) : f.RunsByRank where
  arranged := existsUnique_inRankOrder _ _
  answer ordered h answer := by
    obtain rfl := (inRankOrder_iff _ _ ordered).mp h
    exact Customizer.runs_iff _ _ answer
  ties g h := by
    unfold ClientFactory.settings
    rw [h.byRank_eq]

end Mongo

namespace Kafka

variable {σ ε : Type}

/-- Customizers change a factory one after the other, and their notes are kept in this order. -/
inductive Customizer.Changes : σ → List (Customizer σ ε) → σ → List ε → Prop
  | done (factory : σ) : Changes factory [] factory []
  | step {factory next final : σ} {c : Customizer σ ε} {rest : List (Customizer σ ε)}
      {notes more : List ε} :
      c.apply factory = (next, notes) → Changes next rest final more →
      Changes factory (c :: rest) final (notes ++ more)

/-- The changes of a list of customizers exist, and are the only ones. -/
theorem Customizer.changes_iff (factory : σ) (customizers : List (Customizer σ ε)) (final : σ)
    (notes : List ε) :
    Customizer.Changes factory customizers final notes ↔
      Customizer.runInOrder factory customizers = (final, notes) := by
  constructor
  · intro h
    induction h with
    | done factory => rfl
    | step hc _ ih =>
      rw [runInOrder, hc]
      dsimp only
      rw [ih]
  · intro h
    induction customizers generalizing factory final notes with
    | nil =>
      cases h
      exact .done factory
    | cons c rest ih =>
      cases h
      exact .step rfl (ih _ _ _ rfl)

/-- A factory of the caller is left alone; the factory that was made for the settings is changed by
its customizers in ascending rank. -/
structure ChangedByRank (made : σ) (supplied : Option σ) (customizers : List (Customizer σ ε))
    (final : σ) (notes : List ε) : Prop where
  arranged : ∃! ordered, InRankOrder Customizer.rank customizers ordered
  changed : supplied = none → ∀ ordered, InRankOrder Customizer.rank customizers ordered →
    ∀ factory noted, Customizer.Changes made ordered factory noted ↔
      (final, notes) = (factory, noted)
  kept : ∀ own, supplied = some own → final = own ∧ notes = []

/-- Both factories are settled in the same way. -/
theorem changedByRank_orElse (made : σ) (supplied : Option σ) (customizers : List (Customizer σ ε)) :
    ChangedByRank made supplied customizers
      (Made.orElse (supplied.map (·, [])) fun _ => Customizer.run customizers made).component.1
      (Made.orElse (supplied.map (·, [])) fun _ => Customizer.run customizers made).component.2 where
  arranged := existsUnique_inRankOrder _ _
  changed := by
    rintro rfl ordered h factory noted
    obtain rfl := (inRankOrder_iff _ _ ordered).mp h
    exact Customizer.changes_iff made _ factory noted
  kept := by
    rintro own rfl
    exact ⟨rfl, rfl⟩

open Assembly

/-- Once there are endpoints and a login, the notes are those of both factories. -/
theorem notes_assemble {fs : FileSystem} {registry : Option Tls.Registry} {s : KafkaSettings}
    {supplied : Supplied ε} {endpoints : Made Endpoints} {login : Made (Option Login)}
    (hendpoints : Assembly.endpoints registry s supplied.endpoints = .ok endpoints)
    (hlogin : Assembly.login fs s.jaas supplied.login = .ok login) :
    (assemble fs registry s supplied).notes =
      (finalProducerFactory s supplied endpoints login).component.2 ++
        (finalConsumerFactory s supplied endpoints login).component.2 := by
  unfold assemble
  rw [hendpoints]
  dsimp only
  rw [hlogin]
  dsimp only
  split <;> rfl

/-- The factories of an assembly are changed by their customizers in ascending rank, and nothing else
about the customizers reaches the assembly. -/
structure CustomizedByRank (fs : FileSystem) (registry : Option Tls.Registry) (s : KafkaSettings)
    (supplied : Supplied ε) : Prop where
  factories : ∀ endpoints login,
    Assembly.endpoints registry s supplied.endpoints = .ok endpoints →
    Assembly.login fs s.jaas supplied.login = .ok login →
    ∃ producerFactory consumerFactory notes more,
      ChangedByRank (plainProducerFactory s endpoints.component login.component)
        supplied.producerFactory supplied.producerCustomizers producerFactory notes ∧
      ChangedByRank ⟨client s endpoints.component login.component .consumer⟩
        supplied.consumerFactory supplied.consumerCustomizers consumerFactory more ∧
      (assemble fs registry s supplied).notes = notes ++ more ∧
      ∀ c, (assemble fs registry s supplied).answer = .ok c →
        c.producerFactory = producerFactory ∧ c.consumerFactory = consumerFactory
  ties : ∀ producers consumers,
    SameTies Customizer.rank supplied.producerCustomizers producers →
    SameTies Customizer.rank supplied.consumerCustomizers consumers →
    assemble fs registry s
        { supplied with producerCustomizers := producers, consumerCustomizers := consumers } =
      assemble fs registry s supplied

/-- Customizers with the same ties do the same to a factory. -/
theorem run_eq_of_sameTies {customizers others : List (Customizer σ ε)}
    (h : SameTies Customizer.rank customizers others) :
    Customizer.run others = Customizer.run customizers := by
  funext factory
  unfold Customizer.run
  rw [h.byRank_eq]

theorem customizedByRank (fs : FileSystem) (registry : Option Tls.Registry) (s : KafkaSettings)
    (supplied : Supplied ε) : CustomizedByRank fs registry s supplied where
  factories := by
    intro endpoints login hendpoints hlogin
    refine ⟨_, _, _, _, changedByRank_orElse _ _ _, changedByRank_orElse _ _ _,
      notes_assemble hendpoints hlogin, ?_⟩
    intro c hc
    obtain ⟨endpoints', login', _, hendpoints', hlogin', _, rfl⟩ :=
      (assemble_eq_ok_iff _ _ _ _ _).mp hc
    obtain rfl := Except.ok.inj (hendpoints.symm.trans hendpoints')
    obtain rfl := Except.ok.inj (hlogin.symm.trans hlogin')
    exact ⟨rfl, rfl⟩
  ties := by
    intro producers consumers hproducers hconsumers
    unfold assemble Assembly.producerFactory Assembly.consumerFactory
    simp only [run_eq_of_sameTies hproducers, run_eq_of_sameTies hconsumers]

end Kafka

/-- Of the customizers of either system only their arrangement in ascending rank, with ties as
registered, matters. -/
theorem customizers_run_by_rank {ε : Type} (f : Mongo.ClientFactory) (fs : FileSystem)
    (registry : Option Tls.Registry) (s : KafkaSettings) (supplied : Kafka.Supplied ε) :
    f.RunsByRank ∧ Kafka.CustomizedByRank fs registry s supplied :=
  ⟨f.runsByRank, Kafka.customizedByRank fs registry s supplied⟩

end ClientWiring
