import ClientWiring.Proofs.Kafka.Failure
import ClientWiring.Proofs.Kafka.RoleEntries
import Mathlib.Data.List.Induction

/-!
# Updates of a login

A login is made with options and may be given new ones later, while files come and go.  Options are taken
only if the file that they name can be opened at that time, and one that is refused leaves no trace:

    made        updates                              holds
    keyTab=a    keyTab=b (missing), keyTab=c         keyTab=c
    keyTab=a    keyTab=c, keyTab=b (missing)         keyTab=c
    keyTab=a    keyTab=b (missing)                   keyTab=a

So after any run of updates a login holds the last options that could be taken, those of its settings
included, and login module and flag are as they were made                   (keeps_options).
-/

namespace ClientWiring.Kafka.Login

/-- New options, and the files as they are when they are given. -/
structure Update where
  files : FileSystem
  options : SortedMap String

/-- The file that the options name can be opened, if they name one. -/
def Update.Opens (u : Update) : Prop :=
  ∀ path, u.options.get? "keyTab" = some path → u.files.openFile path = .ok ()

/-- The login after a run of updates, each on what the one before has left. -/
def after (l : Login) : List Update → Login
  | [] => l
  | u :: rest => ((l.update u.files u.options).1).after rest

/-! ## One update -/

theorem checkFile_eq_ok_iff (u : Update) : checkFile u.files u.options = .ok () ↔ u.Opens := by
  unfold checkFile Update.Opens fileOption
  cases u.options.get? "keyTab" with
  | none => simp
  | some path => cases hopen : u.files.openFile path <;> simp [hopen]

theorem update_of_opens (l : Login) {u : Update} (h : u.Opens) :
    l.update u.files u.options = ({ l with options := u.options }, .ok ()) := by
  unfold update
  rw [(checkFile_eq_ok_iff u).mpr h]

theorem update_of_not_opens (l : Login) {u : Update} (h : ¬ u.Opens) :
    ∃ fault, l.update u.files u.options = (l, .error fault) := by
  unfold update
  cases hcheck : checkFile u.files u.options with
  | ok _ => exact absurd ((checkFile_eq_ok_iff u).mp hcheck) h
  | error fault => exact ⟨fault, rfl⟩

theorem update_succeeds_iff (l : Login) (u : Update) :
    (l.update u.files u.options).2 = .ok () ↔ u.Opens := by
  by_cases h : u.Opens
  · simp [update_of_opens l h, h]
  · obtain ⟨fault, hupdate⟩ := update_of_not_opens l h
    simp [hupdate, h]

theorem update_fails_iff (l : Login) (u : Update) (fault : IoFault) :
    (l.update u.files u.options).2 = .error fault ↔ FileFault u.files u.options fault := by
  rw [← checkFile_eq_error_iff]
  unfold update
  cases checkFile u.files u.options <;> simp

theorem update_eq_of_fails {l : Login} {u : Update} {fault : IoFault}
    (h : (l.update u.files u.options).2 = .error fault) : (l.update u.files u.options).1 = l := by
  have hcloses : ¬ u.Opens := by
    intro hopens
    rw [update_of_opens l hopens] at h
    cases h
  obtain ⟨fault', hupdate⟩ := update_of_not_opens l hcloses
  rw [hupdate]

/-- To take options when a login is made is to update one without options. -/
theorem setOptions_eq_update (fs : FileSystem) (l : Login) (options : SortedMap String) :
    setOptions fs l options = (l.update fs options).2.map fun () => (l.update fs options).1 := by
  unfold setOptions update
  cases checkFile fs options <;> rfl

theorem opens_of_ofSettings {fs : FileSystem} {s : JaasSettings} {l : Login}
    (h : ofSettings fs s = .ok l) : Update.Opens ⟨fs, s.options⟩ := by
  by_contra hcloses
  unfold ofSettings at h
  split at h
  · cases h
  · next flag hflag =>
    obtain ⟨fault, hupdate⟩ :=
      update_of_not_opens ⟨s.loginModule.getD defaultModule, flag, .empty⟩ hcloses
    dsimp only at hupdate
    rw [setOptions_eq_update, hupdate] at h
    cases h

/-! ## Runs of updates -/

theorem after_concat (l : Login) (updates : List Update) (u : Update) :
    l.after (updates ++ [u]) = ((l.after updates).update u.files u.options).1 := by
  induction updates generalizing l with
  | nil => rfl
  | cons v rest ih => exact ih _

/-- An update is the last one of some whose file opens. -/
def LastTaken (u : Update) (updates : List Update) : Prop :=
  ∃ earlier later, updates = earlier ++ u :: later ∧ u.Opens ∧ ∀ v ∈ later, ¬ v.Opens

theorem lastTaken_concat_of_opens {u : Update} (h : u.Opens) (updates : List Update) :
    LastTaken u (updates ++ [u]) :=
  ⟨updates, [], rfl, h, fun _ hv => absurd hv List.not_mem_nil⟩

theorem LastTaken.concat {u v : Update} {updates : List Update} (h : LastTaken u updates)
    (hv : ¬ v.Opens) : LastTaken u (updates ++ [v]) := by
  obtain ⟨earlier, later, rfl, hopens, hlater⟩ := h
  refine ⟨earlier, later ++ [v], by simp, hopens, fun w hw => ?_⟩
  rcases List.mem_append.mp hw with hw | hw
  · exact hlater w hw
  · rw [List.mem_singleton.mp hw]
    exact hv

/-- By induction on the run from its end, where the last update is either taken or leaves the login
alone. -/
theorem exists_lastTaken {l : Login} {first : Update} (hopens : first.Opens)
    (hoptions : l.options = first.options) (updates : List Update) :
    ∃ u, LastTaken u (first :: updates) ∧ (l.after updates).options = u.options := by
  induction updates using List.reverseRecOn with
  | nil => exact ⟨first, lastTaken_concat_of_opens hopens [], hoptions⟩
  | append_singleton updates v ih =>
    rw [after_concat, ← List.cons_append]
    by_cases hv : v.Opens
    · refine ⟨v, lastTaken_concat_of_opens hv _, ?_⟩
      rw [update_of_opens _ hv]
    · obtain ⟨u, hlast, hheld⟩ := ih
      obtain ⟨fault, hupdate⟩ := update_of_not_opens (l.after updates) hv
      refine ⟨u, hlast.concat hv, ?_⟩
      rw [hupdate, hheld]

theorem loginModule_after (l : Login) (updates : List Update) :
    (l.after updates).loginModule = l.loginModule ∧ (l.after updates).flag = l.flag := by
  induction updates generalizing l with
  | nil => exact ⟨rfl, rfl⟩
  | cons u rest ih =>
    rw [after]
    by_cases hu : u.Opens
    · rw [update_of_opens l hu]
      exact ih _
    · obtain ⟨fault, hupdate⟩ := update_of_not_opens l hu
      rw [hupdate]
      exact ih l

/-- What is true of a login through all updates, when it was made with the first options. -/
structure Steady (l : Login) (first : Update) : Prop where
  /-- Options are taken if their file can be opened. -/
  succeeds : ∀ (earlier : List Update) (u : Update),
    ((l.after earlier).update u.files u.options).2 = .ok () ↔ u.Opens
  /-- Otherwise the update fails with the reason why it cannot. -/
  fails : ∀ (earlier : List Update) (u : Update) (fault : IoFault),
    ((l.after earlier).update u.files u.options).2 = .error fault ↔
      FileFault u.files u.options fault
  /-- A failed update changes no options, and nothing that is made of them. -/
  spared : ∀ (earlier : List Update) (u : Update) (fault : IoFault),
    ((l.after earlier).update u.files u.options).2 = .error fault →
    (l.after (earlier ++ [u])).options = (l.after earlier).options ∧
      (l.after (earlier ++ [u])).classicForm = (l.after earlier).classicForm ∧
        ∀ c, (l.after (earlier ++ [u])).apply c = (l.after earlier).apply c
  /-- The options are the last ones whose file could be opened when they were given. -/
  held : ∀ updates, ∃ u, LastTaken u (first :: updates) ∧ (l.after updates).options = u.options
  /-- Login module and flag stay. -/
  head : ∀ updates, (l.after updates).loginModule = l.loginModule ∧ (l.after updates).flag = l.flag

/-- A login is made unless its flag is unknown or else its file cannot be opened, and its options are
always the last ones that could be taken. -/
theorem keeps_options (fs : FileSystem) (s : JaasSettings) :
    (∀ fault, ofSettings fs s = .error fault ↔ LoginFault fs s fault) ∧
      ∀ l, ofSettings fs s = .ok l → l.Steady ⟨fs, s.options⟩ := by
  refine ⟨ofSettings_eq_error_iff fs s, fun l hl => ?_⟩
  have hoptions : l.options = s.options := (ofSettings_eq_ok hl).2
  have hopens := opens_of_ofSettings hl
  exact
    { succeeds := fun earlier u => update_succeeds_iff (l.after earlier) u
      fails := fun earlier u fault => update_fails_iff (l.after earlier) u fault
      spared := by
        intro earlier u fault hfails
        rw [after_concat, update_eq_of_fails hfails]
        exact ⟨rfl, rfl, fun _ => rfl⟩
      held := exists_lastTaken hopens hoptions
      head := loginModule_after l }

/-- At the second update the files may not be read any more, so the options of the first stay. -/
example :
    let files : FileSystem := .ofFiles [("/etc/a.keytab", ""), ("c.keytab", "")]
    let given (files : FileSystem) (path : String) : Update := ⟨files, .ofList [("keyTab", path)]⟩
    let made : Login := ⟨defaultModule, .required, (given files "/etc/a.keytab").options⟩
    (made.after [given files "c.keytab", given .locked "/etc/a.keytab"]).options =
      .ofList [("keyTab", "c.keytab")] := by
  decide +kernel

end ClientWiring.Kafka.Login
