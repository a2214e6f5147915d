import AppScaffold.Proofs.Check.Warnings
import AppScaffold.Proofs.Render.Distinct

/-!
# Shared classes

Which screens have one activity class, and what the check says of them: one warning for each class
that two or more screens share, with the ids of all of them. Main statement:
`paths_nodup_iff_no_shared_class`, the files of an accepted project are at different paths exactly
when there is no such warning.
-/

set_option autoImplicit false

namespace AppScaffold.Check

open App (Project Screen)

def idsOfClass (screens : List (String × Screen)) (c : String) : List String :=
  (screens.filter (·.2.activityName == c)).map (·.1)

theorem idsOfClass_concat (screens : List (String × Screen)) (s : String × Screen) (c : String) :
    idsOfClass (screens ++ [s]) c =
      if s.2.activityName = c then idsOfClass screens c ++ [s.1] else idsOfClass screens c := by
  unfold idsOfClass
  rw [List.filter_append, List.map_append]
  by_cases h : s.2.activityName = c <;> simp [h]

theorem classes_concat (screens : List (String × Screen)) (s : String × Screen) :
    classes (screens ++ [s]) = (classes screens).insert s.2.activityName
      (((classes screens).find? s.2.activityName).getD [] ++ [s.1]) := by
  unfold classes
  rw [List.foldl_append]
  rfl

/-- Screens are grouped by class: a class that no screen has is not there. -/
theorem find?_classes (screens : List (String × Screen)) (c : String) :
    (classes screens).find? c =
      if idsOfClass screens c = [] then none else some (idsOfClass screens c) := by
  induction screens using List.reverseRecOn with
  | nil => rfl
  | append_singleton screens s ih =>
    rw [classes_concat, Keyed.Map.find?_insert, idsOfClass_concat]
    by_cases h : c = s.2.activityName
    · subst h
      have hids : ((classes screens).find? s.2.activityName).getD [] =
          idsOfClass screens s.2.activityName := by
        rw [ih]
        split <;> simp_all
      rw [if_pos rfl, if_pos rfl, hids, if_neg (List.concat_ne_nil _ _)]
    · rw [if_neg h, if_neg (Ne.symm h), ih]

theorem mem_classes_iff {screens : List (String × Screen)} {c : String} {ids : List String} :
    (c, ids) ∈ (classes screens).entries ↔ ids = idsOfClass screens c ∧ ids ≠ [] := by
  rw [← Keyed.Map.find?_eq_some_iff, find?_classes]
  split <;> aesop

/-! ## The warnings -/

def sharedClassText (ids : List String) (c : String) : String :=
  "Screens " ++ Text.joinWith ", " ids ++ " all map to activity " ++ c

def SpeaksOfSharedClass (w : Finding) : Prop :=
  ∃ ids c : String, w.message = "Screens " ++ ids ++ " all map to activity " ++ c

def sharedClassWarning (ids : List String) (c : String) : Finding :=
  { field := "screens", message := sharedClassText ids c, code := "WARNING" }

theorem warned_class (c : String × List String) :
    warned (checkClass · c) = if 1 < c.2.length then [sharedClassWarning c.2 c.1] else [] := by
  rw [warned, checkClass, Findings.warnings_warnIf]
  simp [sharedClassWarning, sharedClassText]

theorem flatMap_ite {α β : Type} (q : α → Prop) [DecidablePred q] (g : α → β) (as : List α) :
    as.flatMap (fun a => if q a then [g a] else []) = (as.filter q).map g := by
  induction as with
  | nil => rfl
  | cons a as ih => by_cases h : q a <;> simp [ih, h]

theorem warning_cases {maxDepth : Nat} {p : Project} {w : Finding}
    (h : w ∈ (project maxDepth p).warnings) :
    w ∈ warned (checkVersion p) ∨
      (∃ s ∈ p.secondaryScreens, w ∈ warned (checkScreenName · s.1 s.2)) ∨
      (∃ c ∈ (classes p.secondaryScreens).entries, w ∈ warned (checkClass · c)) ∨
      ∃ s ∈ p.screens.entries, w ∈ warned (checkDepth maxDepth · s.1 s.2) := by
  simpa [warnings_project, or_assoc] using h

theorem dotted_ne_screens (rest : String) : "screens." ++ rest ≠ "screens" := by
  intro h
  simpa using congrArg (·.toList.length) h

theorem filter_warnings_screens (maxDepth : Nat) (p : Project) :
    (project maxDepth p).warnings.filter (·.field == "screens") =
      ((classes p.secondaryScreens).entries.filter (1 < ·.2.length)).map
        fun c => sharedClassWarning c.2 c.1 := by
  -- The other checks warn of other fields, so nothing of them passes the filter.
  have hother {l : List Finding} (h : ∀ w ∈ l, w.field ≠ "screens") :
      l.filter (·.field == "screens") = [] :=
    List.filter_eq_nil_iff.mpr fun w hw => by simpa using h w hw
  have hversion := hother (l := warned (checkVersion p)) fun w hw => by
    rw [field_of_mem_warned_version hw]
    decide
  have hnames := hother (l := p.secondaryScreens.flatMap fun s =>
      warned (checkScreenName · s.1 s.2)) fun w hw => by
    obtain ⟨s, _, hw⟩ := List.mem_flatMap.mp hw
    rw [field_of_mem_warned_name hw, String.append_assoc]
    exact dotted_ne_screens _
  have hdepths := hother (l := p.screens.entries.flatMap fun s =>
      warned (checkDepth maxDepth · s.1 s.2)) fun w hw => by
    obtain ⟨s, _, hw⟩ := List.mem_flatMap.mp hw
    rw [(mem_warned_depth_iff.mp hw).2]
    change nestingField s.1 ≠ "screens"
    rw [nestingField, String.append_assoc]
    exact dotted_ne_screens _
  have hclasses : (classes p.secondaryScreens).entries.flatMap (fun c => warned (checkClass · c)) =
      ((classes p.secondaryScreens).entries.filter (1 < ·.2.length)).map
        fun c => sharedClassWarning c.2 c.1 := by
    simp only [warned_class]
    exact flatMap_ite (fun c : String × List String => 1 < c.2.length) _ _
  have hfields {ws : List (String × List String)} :
      (ws.map fun c => sharedClassWarning c.2 c.1).filter (·.field == "screens") =
        ws.map fun c => sharedClassWarning c.2 c.1 := by
    refine List.filter_eq_self.mpr fun w hw => ?_
    obtain ⟨c, _, rfl⟩ := List.mem_map.mp hw
    exact beq_self_eq_true "screens"
  rw [warnings_project, List.filter_append, List.filter_append, List.filter_append, hversion,
    hnames, hdepths, hclasses, hfields]
  simp

theorem message_of_mem_warnIf {field message : String} {condition : Bool} {w : Finding}
    (h : w ∈ warned (·.warnIf field condition message)) : w.message = message := by
  rw [warned, Findings.warnings_warnIf] at h
  split at h
  · simp_all
  · simp at h

theorem take_of_speaksOfSharedClass {w : Finding} (h : SpeaksOfSharedClass w) :
    w.message.toList.take 8 = "Screens ".toList := by
  obtain ⟨ids, c, h⟩ := h
  rw [h]
  simp

/-- The field and the text of a warning both say whether it is about a shared class. -/
theorem speaksOfSharedClass_iff {maxDepth : Nat} {p : Project} {w : Finding}
    (h : w ∈ (project maxDepth p).warnings) : SpeaksOfSharedClass w ↔ w.field = "screens" := by
  constructor
  · intro hspeaks
    have hstart := take_of_speaksOfSharedClass hspeaks
    rcases warning_cases h with hw | ⟨s, _, hw⟩ | ⟨c, _, hw⟩ | ⟨s, _, hw⟩
    · rw [message_of_mem_warnIf hw] at hstart
      exact absurd hstart (by simp)
    · rw [warned, checkScreenName, Findings.warnings_custom] at hw
      rw [message_of_mem_warnIf hw] at hstart
      exact absurd hstart (by simp)
    · exact field_of_mem_warned_class hw
    · rw [(mem_warned_depth_iff.mp hw).2] at hstart
      exact absurd hstart (by simp)
  · intro hfield
    have hmem : w ∈ (project maxDepth p).warnings.filter (·.field == "screens") :=
      List.mem_filter.mpr ⟨h, beq_iff_eq.mpr hfield⟩
    rw [filter_warnings_screens] at hmem
    obtain ⟨c, _, rfl⟩ := List.mem_map.mp hmem
    exact ⟨Text.joinWith ", " c.2, c.1, rfl⟩

/-! ## Screens that share a class -/

variable {p : Project}

theorem ordered_secondaryScreens (p : Project) : Keyed.Ordered p.secondaryScreens :=
  p.screens.ordered.filter _

theorem nodup_secondaryIds (p : Project) : (p.secondaryScreens.map (·.1)).Nodup := by
  refine List.pairwise_map.mpr ((ordered_secondaryScreens p).imp ?_)
  intro a b hlt heq
  exact String.lt_irrefl _ (heq ▸ hlt)

theorem pairwise_idsOfClass (p : Project) (c : String) :
    (idsOfClass p.secondaryScreens c).Pairwise (· < ·) :=
  List.pairwise_map.mpr ((ordered_secondaryScreens p).filter _)

theorem mem_idsOfClass_iff {screens : List (String × Screen)} {c id : String} :
    id ∈ idsOfClass screens c ↔ ∃ s, (id, s) ∈ screens ∧ s.activityName = c := by
  simp [idsOfClass]

/-- Two screens of one class: what the warning about the class is given for. -/
def Shares (p : Project) (c : String) : Prop :=
  ∃ a ∈ p.secondaryScreens, ∃ b ∈ p.secondaryScreens,
    a.1 ≠ b.1 ∧ a.2.activityName = c ∧ b.2.activityName = c

theorem shares_iff {c : String} : Shares p c ↔ 1 < (idsOfClass p.secondaryScreens c).length := by
  constructor
  · rintro ⟨a, ha, b, hb, hne, hac, hbc⟩
    by_contra hlen
    have hfirst : a.1 ∈ idsOfClass p.secondaryScreens c := mem_idsOfClass_iff.mpr ⟨a.2, ha, hac⟩
    have hsecond : b.1 ∈ idsOfClass p.secondaryScreens c := mem_idsOfClass_iff.mpr ⟨b.2, hb, hbc⟩
    obtain ⟨id, hid⟩ := List.length_eq_one_iff.mp
      (Nat.le_antisymm (Nat.le_of_not_lt hlen) (List.length_pos_of_mem hfirst))
    rw [hid, List.mem_singleton] at hfirst hsecond
    exact hne (hfirst.trans hsecond.symm)
  · intro hlen
    have hordered := pairwise_idsOfClass p c
    match hids : idsOfClass p.secondaryScreens c with
    | [] | [_] => simp [hids] at hlen
    | first :: second :: rest =>
      rw [hids] at hordered
      have hlt : first < second := (List.pairwise_cons.mp hordered).1 second List.mem_cons_self
      have hne : first ≠ second := fun heq => String.lt_irrefl second (heq ▸ hlt)
      obtain ⟨s, hs, hsc⟩ := mem_idsOfClass_iff.mp (hids ▸ List.mem_cons_self)
      obtain ⟨t, ht, htc⟩ := mem_idsOfClass_iff.mp
        (hids ▸ List.mem_cons_of_mem first List.mem_cons_self)
      exact ⟨_, hs, _, ht, hne, hsc, htc⟩

theorem nodup_activityNames_iff :
    (p.secondaryScreens.map (·.2.activityName)).Nodup ↔ ∀ c, ¬ Shares p c := by
  have hkeys : (p.secondaryScreens.map (·.1)).Nodup := nodup_secondaryIds p
  rw [List.nodup_map_iff_inj_on hkeys.of_map]
  constructor
  · rintro hinj c ⟨a, ha, b, hb, hne, hac, hbc⟩
    exact hne (congrArg Prod.fst (hinj a ha b hb (hac.trans hbc.symm)))
  · intro hnone a ha b hb heq
    by_contra hne
    refine hnone _ ⟨a, ha, b, hb, fun hkey => hne ?_, rfl, heq.symm⟩
    exact List.inj_on_of_nodup_map hkeys ha hb hkey

def sharedClasses (p : Project) : List (String × List String) :=
  (classes p.secondaryScreens).entries.filter (1 < ·.2.length)

theorem mem_sharedClasses_iff {c : String} {ids : List String} :
    (c, ids) ∈ sharedClasses p ↔ ids = idsOfClass p.secondaryScreens c ∧ Shares p c := by
  rw [sharedClasses, List.mem_filter, mem_classes_iff, shares_iff, decide_eq_true_iff]
  constructor
  · rintro ⟨⟨rfl, _⟩, hlen⟩
    exact ⟨rfl, hlen⟩
  · rintro ⟨rfl, hlen⟩
    exact ⟨⟨rfl, List.ne_nil_of_length_pos (Nat.zero_lt_of_lt hlen)⟩, hlen⟩

theorem sharedClasses_eq_nil_iff : sharedClasses p = [] ↔ ∀ c, ¬ Shares p c := by
  rw [List.eq_nil_iff_forall_not_mem]
  constructor
  · intro h c hc
    exact h (c, _) (mem_sharedClasses_iff.mpr ⟨rfl, hc⟩)
  · rintro h ⟨c, ids⟩ hmem
    exact h c (mem_sharedClasses_iff.mp hmem).2

theorem no_shared_class_iff (maxDepth : Nat) (p : Project) :
    (∀ w ∈ (project maxDepth p).warnings, ¬ SpeaksOfSharedClass w) ↔ sharedClasses p = [] := by
  rw [← List.map_eq_nil_iff, sharedClasses, ← filter_warnings_screens maxDepth,
    List.filter_eq_nil_iff]
  refine forall₂_congr fun w hw => ?_
  rw [speaksOfSharedClass_iff hw, beq_iff_eq]

/-- The files of an accepted project are at different paths exactly when no warning speaks of a
shared class. There is one such warning for each class that two screens share, in the order of the
classes, and it names the ids of all screens of the class in their order. -/
theorem paths_nodup_iff_no_shared_class (maxDepth requested : Nat) (p : Project)
    (h : (project maxDepth p).errors = []) :
    ∃ r, Render.project requested p = .ok r ∧
      (∀ f ∈ r.files, ∀ g ∈ r.files,
        Host.Path.components f.path = Host.Path.components g.path → f.path = g.path) ∧
      ((r.files.map (·.path)).Nodup ↔
        ∀ w ∈ (project maxDepth p).warnings, ¬ SpeaksOfSharedClass w) ∧
      (∀ w ∈ (project maxDepth p).warnings, SpeaksOfSharedClass w ↔ w.field = "screens") ∧
      ∃ shared : List (String × List String),
        (project maxDepth p).warnings.filter (·.field == "screens") =
          shared.map (fun c => sharedClassWarning c.2 c.1) ∧
        (shared.map (·.1)).Pairwise (· < ·) ∧
        (∀ c, c ∈ shared.map (·.1) ↔ Shares p c) ∧
        ∀ c ids, (c, ids) ∈ shared → ids.Pairwise (· < ·) ∧
          ∀ id, id ∈ ids ↔ ∃ s, (id, s) ∈ p.secondaryScreens ∧ s.activityName = c := by
  have hp : Acceptable p := (isValid_project_iff maxDepth p).mp (List.isEmpty_iff.mpr h)
  obtain ⟨home, hhome⟩ := Option.isSome_iff_exists.mp hp.home
  obtain ⟨r, hr, hrenders⟩ := Render.exists_renders requested hhome
  have hplain := Render.RenderedProject.plain_files (hrenders.plainNames hhome hp)
  have hnodup := Render.nodup_paths_iff hrenders hhome hp
  refine ⟨r, hr, fun f hf g hg => Host.Path.components_inj (hplain f hf) (hplain g hg), ?_,
    fun w hw => speaksOfSharedClass_iff hw, sharedClasses p,
    filter_warnings_screens maxDepth p, ?_, ?_, ?_⟩
  · rw [hnodup, nodup_activityNames_iff, no_shared_class_iff, sharedClasses_eq_nil_iff]
  · exact List.pairwise_map.mpr ((classes p.secondaryScreens).ordered.filter _)
  · intro c
    rw [List.mem_map]
    constructor
    · rintro ⟨⟨c, ids⟩, hmem, rfl⟩
      exact (mem_sharedClasses_iff.mp hmem).2
    · intro hc
      exact ⟨(c, _), mem_sharedClasses_iff.mpr ⟨rfl, hc⟩, rfl⟩
  · intro c ids hmem
    obtain ⟨rfl, _⟩ := mem_sharedClasses_iff.mp hmem
    exact ⟨pairwise_idsOfClass p c, fun id => mem_idsOfClass_iff⟩

def aboutProject : Project :=
  (notesProject.withScreen "about" { name := "About" }).withScreen "info" { name := "About!" }

theorem acceptable_aboutProject : Acceptable aboutProject where
  nameGiven := by decide
  packageGiven := by decide
  package := by decide
  home := by decide
  ids := by decide
  classes := by decide

theorem aboutProject_shares_path :
    ∃ r, Render.project 32 aboutProject = .ok r ∧ ¬ (r.files.map (·.path)).Nodup ∧
      (project 32 aboutProject).warnings.filter (·.field == "screens") =
        [sharedClassWarning ["about", "info"] "AboutActivity"] := by
  have herrors : (project 32 aboutProject).errors = [] :=
    List.isEmpty_iff.mp ((isValid_project_iff 32 aboutProject).mpr acceptable_aboutProject)
  have hwarnings : (project 32 aboutProject).warnings.filter (·.field == "screens") =
      [sharedClassWarning ["about", "info"] "AboutActivity"] := by
    rw [filter_warnings_screens]
    decide
  obtain ⟨r, hr, _, hnodup, hspeaks, _⟩ :=
    paths_nodup_iff_no_shared_class 32 32 aboutProject herrors
  refine ⟨r, hr, fun hdistinct => ?_, hwarnings⟩
  have hmem : sharedClassWarning ["about", "info"] "AboutActivity" ∈
      (project 32 aboutProject).warnings :=
    List.mem_of_mem_filter (hwarnings ▸ List.mem_singleton.mpr rfl)
  exact hnodup.mp hdistinct _ hmem ((hspeaks _ hmem).mpr rfl)

end AppScaffold.Check
