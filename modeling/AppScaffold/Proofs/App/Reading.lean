import AppScaffold.App.Reading
import AppScaffold.Proofs.Json.Record

/-!
# Projects in a text and in its value

What a project, a screen or a component is read as, from a node and from the node of its value. The
value keeps one entry for a key, so it hides two things that a reader of the text minds: a field
that is said twice, and a screen that cannot be read behind which another one has the same id. Main
statement: `agrees_project`.
-/

set_option autoImplicit false

namespace AppScaffold.App

open Json (Agrees Fault FieldWise Items Members Node Read Shape)

/-! ## Scalars and properties -/

theorem agrees_readScalar (n : Node) : Agrees readScalar (fun _ => True) n := by
  intro v hv a
  have hvalue := Node.value_ofJson hv
  cases Node.stands_of_value hv with
  | null | bool | number | text => exact ⟨fun h => ⟨h, trivial⟩, fun h => h.1⟩
  | array start | object start =>
    change (Node.value _ >>= _) = _ ↔ (Node.value (.ofJson _) >>= _) = _ ∧ _
    rw [hv, hvalue, and_true]

theorem readProperties_eq_ok_iff {n : Node} {ms : List (String × Json)} :
    Draft.readProperties n = .ok ms ↔ n.value = .ok (.object ms) := by
  cases n with
  | object limit start members =>
    rw [Draft.readProperties, Node.value, bind_eq_ok_iff, bind_eq_ok_iff]
    refine exists_congr fun _ => and_congr_right fun _ => ?_
    rw [bind_eq_ok_iff]
    constructor
    · exact fun h => ⟨ms, h, rfl⟩
    · rintro ⟨_, h, hms⟩
      cases hms
      exact h
  | _ =>
    constructor
    · intro h
      cases h
    · intro h
      cases Node.stands_of_value h

theorem agrees_readProperties (n : Node) : Agrees Draft.readProperties (fun _ => True) n := by
  intro v hv ms
  rw [readProperties_eq_ok_iff, readProperties_eq_ok_iff, Node.value_ofJson hv, hv, and_true]

/-! ## Components as records -/

theorem loose_looseShape (name : String) (fields : List String) :
    (looseShape name fields).Loose := by
  intro f hf
  obtain ⟨_, _, rfl⟩ := List.mem_map.mp hf
  rfl

theorem keys_looseShape (name : String) (fields : List String) :
    (looseShape name fields).fields.map (·.1) = fields := by
  rw [looseShape, List.map_map]
  exact List.map_id fields

theorem knows_looseShape {name key : String} {fields : List String} :
    (looseShape name fields).knows key ↔ key ∈ fields := by
  rw [Shape.knows_iff, keys_looseShape]

namespace Draft

def read (key : String) (v : Node) (d : Draft) : Read Draft :=
  if key == "children" then d.withChildren <$> Component.readChildren v else d.readField key v

def change (key : String) (v : Node) : Read (Draft → Draft) :=
  if key = "children" then
    (fun children d => d.withChildren children) <$> Component.readChildren v
  else if key = "type" then
    (fun kind d => { d with kind := kind }) <$> v.readOption Node.readText
  else (fun properties d => { d with properties := properties }) <$> v.readOption readProperties

theorem fieldWise : FieldWise shape read change where
  loose := loose_looseShape _ _
  nodup := by decide
  read_eq key v d := by
    unfold read change readField
    by_cases hchildren : key = "children"
    · subst hchildren
      cases Component.readChildren v <;> rfl
    · rw [if_neg (by simpa using hchildren), if_neg hchildren]
      by_cases htype : key = "type"
      · subst htype
        cases v.readOption Node.readText <;> rfl
      · rw [if_neg htype]
        split
        · exact absurd rfl htype
        · cases v.readOption readProperties <;> rfl
  comm {k₁ k₂ n₁ n₂ f g} h₁ h₂ hne hf hg s := by
    rw [shape, knows_looseShape] at h₁ h₂
    simp only [List.mem_cons, List.not_mem_nil, or_false] at h₁ h₂
    rcases h₁ with rfl | rfl | rfl <;> rcases h₂ with rfl | rfl | rfl
    all_goals simp only [ne_eq, String.reduceEq, not_true_eq_false, not_false_eq_true] at hne
    all_goals
      simp only [change, String.reduceEq, if_true, if_false, map_eq_ok_iff] at hf hg
      obtain ⟨_, _, rfl⟩ := hf
      obtain ⟨_, _, rfl⟩ := hg
      rfl

end Draft

theorem readItems_eq_readEach : ∀ (items : Items) (index : Nat),
    readItems index items = items.readEach Component.read index
  | .closed _, _ => by rw [readItems, Items.readEach]
  | .broken .., _ => by rw [readItems, Items.readEach]
  | .item _ value _ rest, index => by
    rw [readItems, Items.readEach, readItems_eq_readEach rest (index + 1)]

theorem readChildren_eq (n : Node) :
    Component.readChildren n = n.readOption (Node.readList Component.read) := by
  cases n with
  | array limit start items =>
    rw [Component.readChildren, readItems_eq_readEach]
    cases limit with
    | some f => rfl
    | none =>
      change (items.readEach Component.read 0 >>= fun cs => pure (some cs)) =
        some <$> items.readEach Component.read 0
      cases items.readEach Component.read 0 <;> rfl
  | _ => rfl

theorem readMembers_eq_readFields : ∀ (ms : Members) (d : Draft) (seen : List String),
    readMembers d seen ms = ms.readFields Draft.read Draft.shape d seen
  | .closed _, d, seen => by
    rw [readMembers, Members.readFields, Shape.missing?_of_loose Draft.fieldWise.loose]
  | .broken .., _, _ => by rw [readMembers, Members.readFields]
  | .member (.error _) .., _, _ => by rw [readMembers, Members.readFields]
  | .member (.ok key) places value resume rest, d, seen => by
    rw [readMembers, Members.readFields, Draft.read]
    simp only [readMembers_eq_readFields rest]
    generalize (if key == "children" then _ else _ : Read Draft) = next
    congr 2
    cases next <;> rfl

theorem drop_of_getElem? {α : Type} {xs : List α} {i : Nat} {x : α} (h : xs[i]? = some x) :
    xs.drop i = x :: xs.drop (i + 1) := by
  obtain ⟨hi, rfl⟩ := List.getElem?_eq_some_iff.mp h
  exact List.drop_eq_getElem_cons hi

theorem readFields_eq_readFields : ∀ (items : Items) (index : Nat) (d : Draft),
    readFields index d items =
      items.readFields Draft.read Draft.shape index (Draft.shape.fields.drop index) d
  | .closed stop, index, d => by
    -- No item is left: the fields that remain keep the values that they have without a text.
    have hloose : ∀ f ∈ Draft.shape.fields.drop index, f.2 = .filled :=
      fun f hf => Draft.fieldWise.loose f (List.mem_of_mem_drop hf)
    generalize Draft.shape.fields.drop index = fields at hloose
    rw [readFields]
    induction fields generalizing index with
    | nil => rw [Items.readFields]
    | cons f fields ih =>
      obtain ⟨name, absent⟩ := f
      obtain ⟨rfl, hrest⟩ := List.forall_mem_cons.mp hloose
      rw [Items.readFields]
      exact ih (index + 1) hrest
  | .broken fault skip finish, index, d => by
    rw [readFields]
    rcases index with _ | _ | _ | index
    · rfl
    · rfl
    · rfl
    · have hdrop : Draft.shape.fields.drop (index + 3) = [] :=
        List.drop_eq_nil_of_le (Nat.le_add_left 3 index)
      rw [if_neg (by omega), hdrop, Items.readFields]
  | .item finish value resume rest, index, d => by
    unfold readFields
    cases hfield : Draft.shape.fields[index]? with
    | none =>
      rw [List.drop_eq_nil_of_le (List.getElem?_eq_none_iff.mp hfield)]
      cases finish <;> rfl
    | some f =>
      rw [drop_of_getElem? hfield, Items.readFields, Draft.read]
      simp only [readFields_eq_readFields rest]
      generalize (if f.1 == "children" then _ else _ : Read Draft) = next
      cases next <;> rfl

theorem read_eq_readRecord (n : Node) :
    Component.read n = Node.readRecord Draft.read Draft.shape {} n >>= Draft.finish := by
  cases n with
  | object limit start members =>
    rw [Component.read, readMembers_eq_readFields, Node.readRecord]
    cases limit <;> rfl
  | array limit start items =>
    rw [Component.read, readFields_eq_readFields, Node.readRecord]
    cases limit <;> rfl
  | _ => rfl

/-! ## What is said once -/

/-- No field of a component is said twice, and none of a component inside it. -/
inductive Component.SaidOnce : Node → Prop
  | mk {n : Node} : ((n.fields Draft.shape).map (·.1)).Nodup →
      (∀ value, ("children", value) ∈ n.fields Draft.shape →
        ∀ child ∈ value.items, Component.SaidOnce child) → Component.SaidOnce n

theorem Component.saidOnce_iff {n : Node} : Component.SaidOnce n ↔
    ((n.fields Draft.shape).map (·.1)).Nodup ∧ ∀ value, ("children", value) ∈ n.fields Draft.shape →
      ∀ child ∈ value.items, Component.SaidOnce child :=
  ⟨fun ⟨hnodup, hchildren⟩ => ⟨hnodup, hchildren⟩, fun h => .mk h.1 h.2⟩

def OnField (field : String) (Fit : Node → Prop) (key : String) (value : Node) : Prop :=
  key = field → Fit value

theorem onField_iff {field : String} {Fit : Node → Prop} {es : List (String × Node)} :
    (∀ e ∈ es, OnField field Fit e.1 e.2) ↔ ∀ value, (field, value) ∈ es → Fit value := by
  constructor
  · exact fun h value hmem => h (field, value) hmem rfl
  · rintro h ⟨key, value⟩ hmem rfl
    exact h value hmem

theorem onField_of_ne {field key : String} {Fit : Node → Prop} {value : Node} (h : key ≠ field) :
    OnField field Fit key value ↔ True :=
  iff_true_intro fun heq => absurd heq h

def ComponentsOnce (n : Node) : Prop := ∀ m ∈ n.items, Component.SaidOnce m

theorem agrees_components {n : Node}
    (h : ∀ m ∈ n.items, Agrees Component.read Component.SaidOnce m) :
    Agrees (Node.readOption (Node.readList Component.read)) ComponentsOnce n :=
  (Agrees.list h).option fun _ => List.forall_mem_nil _

theorem Draft.agrees_change {value : Node}
    (h : ∀ m ∈ value.items, Agrees Component.read Component.SaidOnce m) (key : String) :
    Agrees (Draft.change key) (OnField "children" ComponentsOnce key) value := by
  by_cases hchildren : key = "children"
  · refine ((agrees_components h).map fun children (d : Draft) => d.withChildren children).congr
      (fun m => ?_) ?_
    · rw [change, if_pos hchildren, readChildren_eq]
    · exact forall_prop_of_true hchildren
  · have hfree : OnField "children" ComponentsOnce key value ↔ True := onField_of_ne hchildren
    by_cases htype : key = "type"
    · refine ((Agrees.text.option fun _ => trivial).map fun kind (d : Draft) =>
        { d with kind := kind }).congr (fun m => ?_) hfree
      rw [change, if_neg hchildren, if_pos htype]
    · refine (((agrees_readProperties value).option fun _ => trivial).map
        fun properties (d : Draft) => { d with properties := properties }).congr
          (fun m => ?_) hfree
      rw [change, if_neg hchildren, if_neg htype]

theorem agrees_component (n : Node) (hstrict : n.Strict) :
    Agrees Component.read Component.SaidOnce n := by
  -- The components of a field are the items of a part, so the induction carries the items along.
  suffices h : n.Strict → Agrees Component.read Component.SaidOnce n ∧
      ∀ m ∈ n.items, Agrees Component.read Component.SaidOnce m from (h hstrict).1
  clear hstrict
  refine Node.induction_parts (P := fun n => n.Strict →
    Agrees Component.read Component.SaidOnce n ∧
      ∀ m ∈ n.items, Agrees Component.read Component.SaidOnce m)
    (fun n hitems hentries hstrict => ?_) n
  refine ⟨?_, fun m hm => (hitems m hm (hstrict.items m hm)).1⟩
  have hfields : ∀ e ∈ n.fields Draft.shape, Agrees (Draft.change e.1)
      (OnField "children" ComponentsOnce e.1) e.2 := by
    intro e he
    refine Draft.agrees_change ?_ e.1
    rcases Node.mem_parts_of_mem_fields he with he | he
    · exact (hentries e he (hstrict.entries e he)).2
    · exact (hitems e.2 he (hstrict.items e.2 he)).2
  refine ((Agrees.record Draft.fieldWise hstrict hfields).bind Draft.finish).congr
    read_eq_readRecord ?_
  rw [Component.saidOnce_iff, onField_iff]
  rfl

/-! ## Screens -/

namespace Screen

def shape : Shape := looseShape "Screen" ["name", "components"]

/-- No field of a screen is said twice, and none of its components. -/
def SaidOnce (n : Node) : Prop :=
  ((n.fields shape).map (·.1)).Nodup ∧
    ∀ value, ("components", value) ∈ n.fields shape → ComponentsOnce value

def change (key : String) (v : Node) : Read (Screen → Screen) :=
  if key = "name" then (fun name s => { s with name := name }) <$> v.readText
  else (fun components s => { s with components := components }) <$>
    readNullable (Node.readList Component.read) v

def readField (key : String) (v : Node) (s : Screen) : Read Screen := do
  match key with
  | "name" => return { s with name := ← v.readText }
  | _ => return { s with components := ← readNullable (Node.readList Component.read) v }

theorem fieldWise : FieldWise shape readField change where
  loose := loose_looseShape _ _
  nodup := by decide
  read_eq key v s := by
    unfold readField change
    by_cases hname : key = "name"
    · subst hname
      cases v.readText <;> rfl
    · rw [if_neg hname]
      split
      · exact absurd rfl hname
      · cases readNullable (Node.readList Component.read) v <;> rfl
  comm {k₁ k₂ n₁ n₂ f g} h₁ h₂ hne hf hg s := by
    rw [shape, knows_looseShape] at h₁ h₂
    simp only [List.mem_cons, List.not_mem_nil, or_false] at h₁ h₂
    rcases h₁ with rfl | rfl <;> rcases h₂ with rfl | rfl
    all_goals simp only [ne_eq, String.reduceEq, not_true_eq_false, not_false_eq_true] at hne
    all_goals
      simp only [change, String.reduceEq, if_true, if_false, map_eq_ok_iff] at hf hg
      obtain ⟨_, _, rfl⟩ := hf
      obtain ⟨_, _, rfl⟩ := hg
      rfl

theorem agrees_change {key : String} {value : Node} (hknown : shape.knows key)
    (hstrict : value.Strict) :
    Agrees (change key) (OnField "components" ComponentsOnce key) value := by
  have hcomponents : ∀ m ∈ value.items, Agrees Component.read Component.SaidOnce m :=
    fun m hm => agrees_component m (hstrict.items m hm)
  rw [shape, knows_looseShape, List.mem_pair] at hknown
  rcases hknown with rfl | rfl
  · refine (Agrees.text.map fun name (s : Screen) => { s with name := name }).congr (fun m => ?_)
      (onField_of_ne (by decide))
    rw [change, if_pos rfl]
  · refine (((agrees_components hcomponents).bind fun cs => pure (cs.getD [])).map
      fun components (s : Screen) => { s with components := components }).congr (fun m => ?_)
      (forall_prop_of_true rfl)
    rw [change, if_neg (by decide)]
    rfl

end Screen

theorem agrees_screen (n : Node) (hstrict : n.Strict) : Agrees Screen.read Screen.SaidOnce n := by
  have hfields : ∀ e ∈ n.fields Screen.shape, Agrees (Screen.change e.1)
      (OnField "components" ComponentsOnce e.1) e.2 :=
    fun e he => Screen.agrees_change (Node.knows_of_mem_fields he) (hstrict.fields e he)
  refine (Agrees.record Screen.fieldWise hstrict hfields).congr (fun _ => rfl) ?_
  rw [Screen.SaidOnce, onField_iff]

/-! ## Projects -/

/-- Nothing is said twice in the screens of a map, and a screen behind which another one has the
same id can be read too. -/
def ScreensOnce (n : Node) : Prop :=
  (∀ e ∈ n.entries, Screen.SaidOnce e.2) ∧
    ∀ e ∈ Keyed.replaced n.entries, ∃ s, Screen.read e.2 = .ok s

theorem agrees_screens {n : Node} (hstrict : n.Strict) :
    Agrees (Node.readMap Screen.read) ScreensOnce n :=
  Agrees.entries fun e he => agrees_screen e.2 (hstrict.entries e he)

namespace Project

def shape : Shape := looseShape "Project" ["name", "package", "version", "screens"]

/-- No field of a project is said twice, and none of its screens and components; and all its
screens can be read. -/
def SaidOnce (n : Node) : Prop :=
  ((n.fields shape).map (·.1)).Nodup ∧
    ∀ value, ("screens", value) ∈ n.fields shape → ScreensOnce value

def readField (key : String) (v : Node) (p : Project) : Read Project := do
  match key with
  | "name" => return { p with name := ← v.readText }
  | "package" => return { p with package := ← v.readText }
  | "version" => return { p with declaredVersion := ← readScalar v }
  | _ => return { p with screens := .ofList (← v.readMap Screen.read) }

def change (key : String) (v : Node) : Read (Project → Project) :=
  if key = "name" then (fun name p => { p with name := name }) <$> v.readText
  else if key = "package" then (fun package p => { p with package := package }) <$> v.readText
  else if key = "version" then
    (fun version p => { p with declaredVersion := version }) <$> readScalar v
  else (fun screens p => { p with screens := .ofList screens }) <$> v.readMap Screen.read

theorem fieldWise : FieldWise shape readField change where
  loose := loose_looseShape _ _
  nodup := by decide
  read_eq key v p := by
    unfold readField change
    split
    · cases v.readText <;> rfl
    · cases v.readText <;> rfl
    · cases readScalar v <;> rfl
    · rename_i hname hpackage hversion
      rw [if_neg hname, if_neg hpackage, if_neg hversion]
      cases v.readMap Screen.read <;> rfl
  comm {k₁ k₂ n₁ n₂ f g} h₁ h₂ hne hf hg p := by
    rw [shape, knows_looseShape] at h₁ h₂
    simp only [List.mem_cons, List.not_mem_nil, or_false] at h₁ h₂
    rcases h₁ with rfl | rfl | rfl | rfl <;> rcases h₂ with rfl | rfl | rfl | rfl
    all_goals simp only [ne_eq, String.reduceEq, not_true_eq_false, not_false_eq_true] at hne
    all_goals
      simp only [change, String.reduceEq, if_true, if_false, map_eq_ok_iff] at hf hg
      obtain ⟨_, _, rfl⟩ := hf
      obtain ⟨_, _, rfl⟩ := hg
      rfl

theorem agrees_change {key : String} {value : Node} (hknown : shape.knows key)
    (hstrict : value.Strict) : Agrees (change key) (OnField "screens" ScreensOnce key) value := by
  rw [shape, knows_looseShape] at hknown
  simp only [List.mem_cons, List.not_mem_nil, or_false] at hknown
  rcases hknown with rfl | rfl | rfl | rfl
  · refine (Agrees.text.map fun name (p : Project) => { p with name := name }).congr
      (fun m => ?_) (onField_of_ne (by decide))
    rw [change, if_pos rfl]
  · refine (Agrees.text.map fun package (p : Project) => { p with package := package }).congr
      (fun m => ?_) (onField_of_ne (by decide))
    rw [change, if_neg (by decide), if_pos rfl]
  · refine ((agrees_readScalar value).map fun version (p : Project) =>
      { p with declaredVersion := version }).congr (fun m => ?_) (onField_of_ne (by decide))
    rw [change, if_neg (by decide), if_neg (by decide), if_pos rfl]
  · refine ((agrees_screens hstrict).map fun screens (p : Project) =>
      { p with screens := .ofList screens }).congr (fun m => ?_) (forall_prop_of_true rfl)
    rw [change, if_neg (by decide), if_neg (by decide), if_neg (by decide)]

end Project

/-- A project is read from a node exactly when it is read from its value and nothing that the value
hides is wrong with the node. -/
theorem agrees_project (n : Node) (hstrict : n.Strict) :
    Agrees Project.read Project.SaidOnce n := by
  have hfields : ∀ e ∈ n.fields Project.shape, Agrees (Project.change e.1)
      (OnField "screens" ScreensOnce e.1) e.2 :=
    fun e he => Project.agrees_change (Node.knows_of_mem_fields he) (hstrict.fields e he)
  refine (Agrees.record Project.fieldWise hstrict hfields).congr (fun _ => rfl) ?_
  rw [Project.SaidOnce, onField_iff]

end AppScaffold.App
