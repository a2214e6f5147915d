import AppScaffold.Proofs.Render.References

/-!
# Names of classes

The class of a screen is named by the letters and digits of the screen's name. It is an identifier
unless a digit comes first, and no check asks for that. Main statement:
`stub_classes_are_identifiers_iff`.
-/

set_option autoImplicit false

namespace AppScaffold.Render

open App (Project Screen mainScreenId)
open Xml (Node)

def IsIdentifier (name : String) : Prop :=
  ∃ first rest, name.toList = first :: rest ∧ first.isAlpha = true ∧
    ∀ c ∈ rest, c.isAlphanum = true

/-- Of the letters and digits of a text, if it has any, the first one is a letter. -/
def LetterFirst (text : String) : Prop :=
  ∀ c ∈ text.toList.find? Char.isAlphanum, c.isAlpha = true

instance (text : String) : Decidable (LetterFirst text) :=
  decidable_of_iff ((text.toList.find? Char.isAlphanum).all Char.isAlpha = true) (by
    cases h : text.toList.find? Char.isAlphanum <;> simp [LetterFirst, h])

theorem isIdentifier_iff {name : String} (h : ∀ c ∈ name.toList, c.isAlphanum = true) :
    IsIdentifier name ↔ ∃ c, name.toList.head? = some c ∧ c.isAlpha = true := by
  constructor
  · rintro ⟨first, rest, heq, hfirst, -⟩
    exact ⟨first, by rw [heq, List.head?_cons], hfirst⟩
  · rintro ⟨first, hhead, hfirst⟩
    obtain ⟨rest, heq⟩ := List.head?_eq_some_iff.mp hhead
    exact ⟨first, rest, heq, hfirst, fun c hc => h c (heq ▸ List.mem_cons_of_mem first hc)⟩

theorem head?_activityName (s : Screen) :
    s.activityName.toList.head? = (s.name.toList.find? Char.isAlphanum).or (some 'A') := by
  rw [Screen.activityName, String.toList_append, String.toList_ofList, List.head?_append,
    List.head?_filter]
  rfl

theorem isIdentifier_activityName_iff (s : Screen) :
    IsIdentifier s.activityName ↔ LetterFirst s.name := by
  rw [isIdentifier_iff fun c => isAlphanum_of_mem_activityName, head?_activityName, LetterFirst]
  cases s.name.toList.find? Char.isAlphanum with
  | none => exact iff_of_true ⟨'A', rfl, by decide⟩ nofun
  | some c => simp

theorem isIdentifier_mainActivityName : IsIdentifier mainActivityName :=
  ⟨'M', "ainActivity".toList, rfl, by decide, List.all_eq_true.mp (by decide)⟩

/-- Whether all classes are identifiers is decided by the names of the secondary screens. -/
theorem Renders.isIdentifier_iff {requested : Nat} {p : Project} {home : Screen}
    {r : RenderedProject} (h : Renders requested p home r) :
    (∀ a ∈ r.allActivities, IsIdentifier a.className) ↔
      ∀ s ∈ p.secondaryScreens, LetterFirst s.2.name := by
  rw [h.allActivities, List.forall_mem_cons, List.forall_mem_map]
  have hmain : IsIdentifier (Activity.main p).className := isIdentifier_mainActivityName
  constructor
  · rintro ⟨-, hall⟩ s hs
    exact (isIdentifier_activityName_iff s.2).mp (hall s hs)
  · intro hall
    exact ⟨hmain, fun s hs => (isIdentifier_activityName_iff s.2).mpr (hall s hs)⟩

/-- The public class of every source is an identifier, and there is only one. -/
def SourcesNameClasses (files : List GeneratedFile) : Prop :=
  ∀ f ∈ files, ∀ stem, f.path = stem ++ ".java" →
    ∃ c, publicClasses f.contents = [c] ∧ IsIdentifier c

def ManifestNamesClasses (forest : List Node) : Prop :=
  ∀ name ∈ Node.activityNamesAll forest, ∃ c, name = "." ++ c ∧ IsIdentifier c

/-- What is generated for an accepted project names classes by identifiers, in the sources and in
the manifest, exactly when no secondary screen has a name whose first letter or digit is a digit. -/
theorem stub_classes_are_identifiers_iff {maxDepth : Nat} {p : Project} {warnings : List String}
    (requested : Nat) (h : Check.accept maxDepth p = .ok warnings) :
    ∃ r forest, project requested p = .ok r ∧
      (∃ f ∈ r.files, f.path = "app/src/main/AndroidManifest.xml" ∧
        Node.ofText? f.contents = some forest) ∧
      (SourcesNameClasses r.files ↔ ∀ s ∈ p.secondaryScreens, LetterFirst s.2.name) ∧
      (ManifestNamesClasses forest ↔ ∀ s ∈ p.secondaryScreens, LetterFirst s.2.name) := by
  obtain ⟨hp, -⟩ := Check.accept_eq_ok_iff.mp h
  obtain ⟨home, hhome⟩ := Option.isSome_iff_exists.mp hp.home
  obtain ⟨r, hr, hrenders⟩ := exists_renders requested hhome
  refine ⟨r, [manifestElement p], hr, ⟨_, manifest_mem_files hr, rfl, ofText?_manifest p⟩, ?_, ?_⟩
  · rw [← hrenders.isIdentifier_iff]
    have hclass {a : Activity} (ha : a ∈ r.allActivities) :
        publicClasses (r.sourceFile a).contents = [a.className] :=
      Activity.publicClasses_source (hrenders.onLines hp ha)
    constructor
    · intro hall a ha
      have hpath := sourceFile_path_eq hrenders hp
        (hrenders.plainNames hhome hp).plain_sourceDir (hrenders.isName_sourceFile ha)
      obtain ⟨c, hc, hidentifier⟩ := hall _ (r.sourceFile_mem_files ha) _ hpath
      rw [hclass ha, List.cons.injEq] at hc
      rwa [hc.1]
    · intro hall f hf stem hstem
      obtain ⟨a, ha, rfl⟩ := exists_activity hrenders hhome hf (hstem ▸ getLast?_java stem)
      exact ⟨a.className, hclass ha, hall a ha⟩
  · rw [← hrenders.isIdentifier_iff]
    rw [ManifestNamesClasses, hrenders.activityNames_manifestElement, List.forall_mem_map]
    constructor
    · intro hall a ha
      obtain ⟨c, hc, hidentifier⟩ := hall a ha
      rwa [(String.append_right_inj ".").mp hc]
    · exact fun hall a ha => ⟨a.className, rfl, hall a ha⟩

theorem notesProject_classes_are_identifiers :
    ∃ r forest, project 32 Check.notesProject = .ok r ∧
      (∃ f ∈ r.files, f.path = "app/src/main/AndroidManifest.xml" ∧
        Node.ofText? f.contents = some forest) ∧
      SourcesNameClasses r.files ∧ ManifestNamesClasses forest := by
  have haccept : Check.accept 32 Check.notesProject =
      .ok (Check.project 32 Check.notesProject).warningTexts :=
    Check.accept_eq_ok_iff.mpr ⟨Check.acceptable_notesProject, rfl⟩
  have hletters : ∀ s ∈ Check.notesProject.secondaryScreens, LetterFirst s.2.name := by decide
  obtain ⟨r, forest, hr, hmanifest, hsources, hnames⟩ := stub_classes_are_identifiers_iff 32 haccept
  exact ⟨r, forest, hr, hmanifest, hsources.mpr hletters, hnames.mpr hletters⟩

def gameProject : Project :=
  (({ name := "Notes", package := "io.notes.app" } : Project).withScreen mainScreenId
    { name := "Home" }).withScreen "game" { name := "2048" }

/-- The check has nothing to say of the project, and the class of its screen is no identifier. -/
theorem class_of_numbered_screen_is_no_identifier :
    Check.accept 32 gameProject = .ok [] ∧
      (gameProject.secondaryScreens.map fun s => s.2.activityName) = ["2048Activity"] ∧
      ¬ IsIdentifier "2048Activity" := by
  have hacceptable : Check.Acceptable gameProject :=
    ⟨by decide, by decide, by decide, by decide, by decide, by decide⟩
  have hwarnings : (Check.project 32 gameProject).warningTexts = [] := by decide
  refine ⟨Check.accept_eq_ok_iff.mpr ⟨hacceptable, hwarnings.symm⟩, by decide, ?_⟩
  rintro ⟨first, rest, heq, hfirst, -⟩
  obtain rfl : '2' = first := (List.cons.inj heq).1
  cases hfirst

end AppScaffold.Render
