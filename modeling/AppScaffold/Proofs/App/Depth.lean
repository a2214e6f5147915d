import AppScaffold.CommandLine.Run
import AppScaffold.Proofs.App.Conversion
import AppScaffold.Proofs.Json.Depth
import AppScaffold.Proofs.Layout.Nesting
import AppScaffold.Proofs.Server.ProjectText

/-!
# Depth of projects

A component is an array or an object, and its children are items of another array. So the depth of
the components that are read is bounded by the limit of the JSON reader, in every project that is
accepted, and so is the recursion of everything that walks them.
-/

set_option autoImplicit false

namespace AppScaffold.App

open Json (Document Node Read)

variable {n : Node} {c : Component} {room : Nat}

/-! ## Components -/

theorem Component.depthAll_le_iff {cs : List Component} {k : Nat} :
    depthAll cs ≤ k ↔ ∀ c ∈ cs, c.depth ≤ k := by
  induction cs with
  | nil => simp [depthAll]
  | cons c cs ih => rw [depthAll, Nat.max_le, ih, List.forall_mem_cons]

theorem Draft.depth_le_of_finish {d : Draft} (h : d.finish = .ok c) :
    c.depth ≤ 1 + Component.depthAll (d.children.getD []) := by
  have hkind := Finishes.of_finish h
  generalize d.kind.getD "unspecified" = kind at hkind
  cases hkind with
  | container => exact Nat.le_refl _
  | _ => exact Nat.le_add_right 1 _

/-- Of two containers in each other, one holds the children and one is a child. -/
theorem Component.depthAll_le_of_readOption {read : Node → Read Component}
    {children : Option (List Component)}
    (hread : ∀ rest < room, ∀ m c, m.Fits rest → read m = .ok c → c.depth ≤ (rest + 1) / 2)
    (hfits : n.Fits room) (h : n.readOption (Node.readList read) = .ok children) :
    depthAll (children.getD []) ≤ room / 2 := by
  cases children with
  | none => exact Nat.zero_le _
  | some cs =>
    have hlist := Node.read_of_readOption h
    obtain ⟨rest, rfl, hitems, -⟩ := hfits.parts (Node.enterable_of_readList hlist)
    apply depthAll_le_iff.mpr
    intro c hc
    obtain ⟨m, hm, hmread⟩ := Node.exists_of_mem_readList hlist hc
    exact hread rest (Nat.lt_succ_self rest) m c (hitems m hm) hmread

theorem Component.depth_le_of_read (hfits : n.Fits room) (h : Component.read n = .ok c) :
    c.depth ≤ (room + 1) / 2 := by
  induction room using Nat.strongRecOn generalizing n c with
  | ind room ih =>
    rw [read_eq_readRecord] at h
    obtain ⟨d, hd, hfinish⟩ := bind_eq_ok_iff.mp h
    obtain ⟨rest, rfl, hitems, hentries⟩ := hfits.parts (Node.enterable_of_readRecord hd)
    -- Children stand in a list in the record, so two containers go by for each level of components.
    have hchildren : depthAll (d.children.getD []) ≤ rest / 2 := by
      refine Node.invariant_readRecord (P := Node.Fits rest)
        (I := fun d => depthAll (d.children.getD []) ≤ rest / 2)
        (fun key m acc d hm hacc hread => ?_) hitems hentries (Nat.zero_le _) hd
      rw [Draft.read] at hread
      split at hread
      · obtain ⟨children, hlist, rfl⟩ := map_eq_ok_iff.mp hread
        rw [readChildren_eq] at hlist
        apply depthAll_le_of_readOption _ hm hlist
        intro inner hinner m c hm hc
        exact ih inner (by omega) hm hc
      · have hsame : d.children = acc.children := by
          unfold Draft.readField at hread
          split at hread
          all_goals
            obtain ⟨_, _, heq⟩ := bind_eq_ok_iff.mp hread
            cases heq
            rfl
        rwa [hsame]
    have hdepth := Draft.depth_le_of_finish hfinish
    omega

/-! ## Projects -/

theorem Screen.depth_le_of_read {s : Screen} (hfits : n.Fits (room + 1))
    (h : Screen.read n = .ok s) : s.depth ≤ room / 2 := by
  obtain ⟨hitems, hentries⟩ := hfits (Node.enterable_of_readRecord h)
  refine Node.invariant_readRecord (P := Node.Fits room) (I := fun s => s.depth ≤ room / 2)
    (fun key m acc s hm hacc hread => ?_) hitems hentries (Nat.zero_le _) h
  split at hread
  all_goals
    obtain ⟨x, hx, heq⟩ := bind_eq_ok_iff.mp hread
    cases heq
  · exact hacc
  · obtain ⟨children, hlist, heq⟩ := bind_eq_ok_iff.mp hx
    cases heq
    apply Component.depthAll_le_of_readOption _ hm hlist
    exact fun _ _ _ _ => Component.depth_le_of_read

theorem Project.depth_le_of_read {p : Project} (hfits : n.Fits (room + 3))
    (h : Project.read n = .ok p) : ∀ e ∈ p.screens.entries, e.2.depth ≤ room / 2 := by
  obtain ⟨hitems, hentries⟩ := hfits (Node.enterable_of_readRecord h)
  refine Node.invariant_readRecord (P := Node.Fits (room + 2))
    (I := fun p => ∀ e ∈ p.screens.entries, e.2.depth ≤ room / 2)
    (fun key m acc p hm hacc hread => ?_) hitems hentries (List.forall_mem_nil _) h
  split at hread
  all_goals
    obtain ⟨x, hx, heq⟩ := bind_eq_ok_iff.mp hread
    cases heq
  · exact hacc
  · exact hacc
  · exact hacc
  · intro e he
    have hmem : e ∈ x := by
      rcases Keyed.Map.mem_entries_foldl_insert he with he | he
      · exact he
      · exact absurd he List.not_mem_nil
    obtain ⟨w, hw, -, hscreen⟩ := Node.exists_of_mem_readMap hx hmem
    exact Screen.depth_le_of_read ((hm (Node.enterable_of_readMap hx)).2 w hw) hscreen

/-! ## The recursion of the conversion -/

def Draft.readWith (component : Node → Read Component) (key : String) (v : Node) (d : Draft) :
    Read Draft :=
  if key == "children" then d.withChildren <$> v.readOption (Node.readList component)
  else d.readField key v

/-- Reads components, and calls itself for children no more than so many times in a row. What
stands still deeper is left to the reader that is given. -/
def Component.readWithin (beyond : Node → Read Component) : Nat → Node → Read Component
  | 0, n => beyond n
  | levels + 1, n =>
    Node.readRecord (Draft.readWith (readWithin beyond levels)) Draft.shape {} n >>= Draft.finish

def Screen.readFieldWith (component : Node → Read Component) (key : String) (v : Node)
    (s : Screen) : Read Screen := do
  match key with
  | "name" => return { s with name := ← v.readText }
  | _ => return { s with components := ← readNullable (Node.readList component) v }

def Screen.readWith (component : Node → Read Component) : Node → Read Screen :=
  Node.readRecord (readFieldWith component) shape {}

def Project.readFieldWith (component : Node → Read Component) (key : String) (v : Node)
    (p : Project) : Read Project := do
  match key with
  | "name" => return { p with name := ← v.readText }
  | "package" => return { p with package := ← v.readText }
  | "version" => return { p with declaredVersion := ← readScalar v }
  | _ => return { p with screens := .ofList (← v.readMap (Screen.readWith component)) }

def Project.readWith (component : Node → Read Component) : Node → Read Project :=
  Node.readRecord (readFieldWith component) shape {}

theorem readOption_list_congr {read read' : Node → Read Component}
    (hread : ∀ rest < room, ∀ m, m.Fits rest → read m = read' m) (hfits : n.Fits room) :
    n.readOption (Node.readList read) = n.readOption (Node.readList read') := by
  apply Node.readOption_congr
  apply Node.readList_congr
  intro henter m hm
  obtain ⟨rest, rfl, hitems, -⟩ := hfits.parts henter
  exact hread rest (Nat.lt_succ_self rest) m (hitems m hm)

theorem Component.read_eq_readWithin (beyond : Node → Read Component) {levels : Nat}
    (hfits : n.Fits room) (hroom : room < 2 * levels) :
    Component.read n = readWithin beyond levels n := by
  induction levels generalizing n room with
  | zero => exact absurd hroom (Nat.not_lt_zero room)
  | succ levels ih =>
    rw [read_eq_readRecord, readWithin]
    congr 1
    apply Node.readRecord_congr
    intro henter
    obtain ⟨rest, rfl, hitems, hentries⟩ := hfits.parts henter
    have hfield {m : Node} (hm : m.Fits rest) (key : String) (d : Draft) :
        Draft.read key m d = Draft.readWith (readWithin beyond levels) key m d := by
      rw [Draft.read, Draft.readWith, readChildren_eq]
      split
      · rw [readOption_list_congr _ hm]
        intro inner hinner child hchild
        exact ih hchild (by omega)
      · rfl
    exact ⟨fun m hm => hfield (hitems m hm), fun e he => hfield (hentries e he)⟩

theorem Screen.read_eq_readWith {component : Node → Read Component}
    (hcomponent : ∀ rest < room, ∀ m, m.Fits rest → Component.read m = component m)
    (hfits : n.Fits (room + 1)) : Screen.read n = readWith component n := by
  apply Node.readRecord_congr
  intro henter
  obtain ⟨hitems, hentries⟩ := hfits henter
  have hfield {m : Node} (hm : m.Fits room) (key : String) (s : Screen) :
      readField key m s = readFieldWith component key m s := by
    unfold readField readFieldWith readNullable
    rewrite [readOption_list_congr hcomponent hm]
    rfl
  exact ⟨fun m hm => hfield (hitems m hm), fun e he => hfield (hentries e he)⟩

theorem Project.read_eq_readWith {component : Node → Read Component}
    (hcomponent : ∀ rest < room, ∀ m, m.Fits rest → Component.read m = component m)
    (hfits : n.Fits (room + 3)) : Project.read n = readWith component n := by
  apply Node.readRecord_congr
  intro henter
  obtain ⟨hitems, hentries⟩ := hfits henter
  have hfield {m : Node} (hm : m.Fits (room + 2)) (key : String) (p : Project) :
      readField key m p = readFieldWith component key m p := by
    have hscreens : m.readMap Screen.read = m.readMap (Screen.readWith component) := by
      apply Node.readMap_congr
      intro henter e he
      exact Screen.read_eq_readWith hcomponent ((hm henter).2 e he)
    unfold readField readFieldWith
    rewrite [hscreens]
    rfl
  exact ⟨fun m hm => hfield (hitems m hm), fun e he => hfield (hentries e he)⟩

/-! ## The recursion over components -/

/-- The depth of a component, which asks for the depth of children no more than so many times in a
row. -/
def Component.depthWithin (beyond : Component → Nat) : Nat → Component → Nat
  | 0, c => beyond c
  | levels + 1, .container _ children =>
    1 + (children.map (depthWithin beyond levels)).foldr max 0
  | _ + 1, _ => 1

def Screen.depthWithin (beyond : Component → Nat) (levels : Nat) (s : Screen) : Nat :=
  (s.components.map (Component.depthWithin beyond levels)).foldr max 0

theorem Component.depthAll_eq_foldr (cs : List Component) :
    depthAll cs = (cs.map depth).foldr max 0 := by
  induction cs with
  | nil => rfl
  | cons c cs ih => rw [depthAll, ih, List.map_cons, List.foldr_cons]

theorem Component.depth_eq_depthWithin (beyond : Component → Nat) {levels : Nat}
    (h : c.depth ≤ levels) : c.depth = depthWithin beyond levels c := by
  induction levels generalizing c with
  | zero => exact absurd c.depth_pos (by omega)
  | succ levels ih =>
    cases c with
    | container p children =>
      rw [depth] at h
      have hchildren := depthAll_le_iff.mp (show depthAll children ≤ levels by omega)
      rw [depth, depthWithin, depthAll_eq_foldr,
        List.map_congr_left fun c hc => ih (hchildren c hc)]
    | _ => rfl

theorem Screen.depth_eq_depthWithin (beyond : Component → Nat) {levels : Nat} {s : Screen}
    (h : s.depth ≤ levels) : s.depth = s.depthWithin beyond levels := by
  rw [depth, Component.depthAll_eq_foldr, depthWithin,
    List.map_congr_left fun c hc =>
      Component.depth_eq_depthWithin beyond (Component.depthAll_le_iff.mp h c hc)]

end AppScaffold.App

namespace AppScaffold.Render

open App (Component Screen)
open Xml (Markup)

def markupWithin (beyond : Nat → Component → List Markup) (limit : Nat) :
    Nat → Nat → Component → List Markup
  | 0, depth, c => beyond depth c
  | levels + 1, depth, .container p children =>
    [.group "LinearLayout" (containerAttributes p)
      (if limit ≤ depth then
        if children.isEmpty then [] else [omission limit]
      else children.flatMap (markupWithin beyond limit levels (depth + 1)))]
  | _ + 1, depth, c => markup limit depth c

def layoutWithin (beyond : Nat → Component → List Markup) (levels requested : Nat)
    (appName : String) (s : Screen) : String :=
  layoutStart ++
    Markup.printAll 1 (if s.components.isEmpty then [emptyScreen appName]
      else s.components.flatMap (markupWithin beyond (nestingLimit requested) levels 1)) ++
    layoutEnd

theorem markupAll_eq_flatMap (limit depth : Nat) (cs : List Component) :
    markupAll limit depth cs = cs.flatMap (markup limit depth) := by
  induction cs with
  | nil => rfl
  | cons c cs ih => rw [markupAll, ih, List.flatMap_cons]

theorem markup_eq_markupWithin (beyond : Nat → Component → List Markup) {limit depth levels : Nat}
    {c : Component} (h : c.depth ≤ levels) :
    markup limit depth c = markupWithin beyond limit levels depth c := by
  induction levels generalizing c depth with
  | zero => exact absurd c.depth_pos (by omega)
  | succ levels ih =>
    cases c with
    | container p children =>
      rw [Component.depth] at h
      have hchildren := Component.depthAll_le_iff.mp
        (show Component.depthAll children ≤ levels by omega)
      rw [markup, markupWithin, markupAll_eq_flatMap,
        List.flatMap_congr fun c hc => ih (hchildren c hc)]
    | _ => rfl

theorem layout_eq_layoutWithin (beyond : Nat → Component → List Markup) {levels : Nat}
    {s : Screen} (h : s.depth ≤ levels) (requested : Nat) (appName : String) :
    layout requested appName s = layoutWithin beyond levels requested appName s := by
  rw [layout, screenBody, layoutWithin, markupAll_eq_flatMap,
    List.flatMap_congr fun c hc =>
      markup_eq_markupWithin beyond (Component.depthAll_le_iff.mp h c hc)]

end AppScaffold.Render

/-! ## Accepted projects -/

namespace AppScaffold.App

open Json (Document Node Read)

variable {n : Node} {room : Nat}

/-- How deep the components of the screens stand, and that the depth and the layout of a screen are
worked out by calls that are as deep in each other and no deeper. -/
structure Project.NestsWithin (levels : Nat) (p : Project) : Prop where
  depth_le : ∀ e ∈ p.screens.entries, e.2.depth ≤ levels
  depth_eq : ∀ beyond, ∀ e ∈ p.screens.entries, e.2.depth = e.2.depthWithin beyond levels
  layout_eq : ∀ beyond requested, ∀ e ∈ p.screens.entries,
    Render.layout requested p.name e.2 = Render.layoutWithin beyond levels requested p.name e.2

theorem Project.nestsWithin_of_read {p : Project} (hfits : n.Fits (room + 3))
    (h : Project.read n = .ok p) : p.NestsWithin (room / 2) := by
  have hdepth := Project.depth_le_of_read hfits h
  constructor
  · exact hdepth
  · intro beyond e he
    exact Screen.depth_eq_depthWithin beyond (hdepth e he)
  · intro beyond requested e he
    exact Render.layout_eq_layoutWithin beyond (hdepth e he) requested p.name

theorem Project.read_eq_readWithin (beyond : Node → Read Component) {levels : Nat}
    (hfits : n.Fits (room + 3)) (hroom : room ≤ 2 * levels) :
    Project.read n = readWith (Component.readWithin beyond levels) n := by
  apply Project.read_eq_readWith _ hfits
  intro rest hrest m hm
  exact Component.read_eq_readWithin beyond hm (by omega)

end AppScaffold.App

namespace AppScaffold.Server

open App (Component Project)
open Json (Document Node Read)

theorem Order.project_fits {limit : Nat} {r : Web.Request} {o : Order} {v : Json}
    (h : readBody limit Order.read r = .ok o) (hproject : o.project = some v) :
    (Node.ofJson v).Fits 126 := by
  have hread : (Document.ofText (Text.decodeLossy r.body)).read Order.read = .ok o := by
    unfold readBody at h
    split at h
    · cases h
    · split at h
      · cases h
      · exact mapError_eq_ok_iff.mp h
  obtain ⟨hroot, -⟩ := Document.read_eq_ok_iff.mp hread
  obtain ⟨hitems, hentries⟩ := Json.fits_root _ (Node.enterable_of_readRecord hroot)
  have hempty : ∀ v, ({} : Order).project = some v → (Node.ofJson v).Fits 126 := by
    intro v hv
    cases hv
  refine Node.invariant_readRecord (P := Node.Fits 126)
    (I := fun o => ∀ v, o.project = some v → (Node.ofJson v).Fits 126)
    (fun key m acc o hm hacc hread => ?_) hitems hentries hempty hroot v hproject
  split at hread
  all_goals
    obtain ⟨x, hx, heq⟩ := bind_eq_ok_iff.mp hread
    cases heq
  · intro v hv
    cases hv
    exact hm.ofJson (Node.read_of_readOption hx)
  · exact hacc
  · exact hacc

end AppScaffold.Server

namespace AppScaffold.App

open CommandLine (loadProject)
open Json (Document Node)
open Server (Order readBody)

/-- The JSON reader enters 127 arrays and objects inside each other. Behind the project, its map of
screens and the screen, an accepted project has room for 62 components inside each other, and for
one less when the project stands in an order. Reading a project, accepted or not, asks for the
children of components no more than 62 times in a row. -/
theorem accepted_nesting_bounded :
    (∀ fs path p, loadProject fs path = .ok p → p.NestsWithin 62) ∧
    (∀ limit r o p, readBody limit Order.read r = .ok o → o.project? = .ok p →
      p.NestsWithin 61) ∧
    (∀ beyond t, Project.ofText t =
      (Document.ofText t).read (Project.readWith (Component.readWithin beyond 62))) ∧
    ∀ beyond limit r o ms, readBody limit Order.read r = .ok o → o.project = some (.object ms) →
      Project.ofJson (.object ms) =
        Project.readWith (Component.readWithin beyond 62) (Node.ofJson (.object ms)) := by
  refine ⟨fun fs path p h => ?_, fun limit r o p hbody hproject => ?_, fun beyond t => ?_,
    fun beyond limit r o ms hbody hproject => ?_⟩
  · obtain ⟨text, -, hparse⟩ := bind_eq_ok_iff.mp h
    obtain ⟨hroot, -⟩ := Document.read_eq_ok_iff.mp (mapError_eq_ok_iff.mp hparse)
    have hnests := Project.nestsWithin_of_read (Json.fits_root text) hroot
    exact hnests
  · obtain ⟨ms, hms, hread⟩ := Order.project?_eq_ok_iff.mp hproject
    have hnests := Project.nestsWithin_of_read (Order.project_fits hbody hms) hread
    exact hnests
  · have hroom : 124 ≤ 2 * 62 := Nat.le_refl 124
    have hread := Project.read_eq_readWithin beyond (Json.fits_root t) hroom
    rw [Project.ofText, Document.read, hread]
    rfl
  · have hfits := Order.project_fits hbody hproject
    exact Project.read_eq_readWithin beyond hfits (by decide)

/-! ## The bounds are reached -/

def nestedComponent : Nat → List Char
  | 0 => "[\"text\"]".toList
  | levels + 1 => "[\"container\",null,[".toList ++ nestedComponent levels ++ "]]".toList

def nestedProject (levels : Nat) : List Char :=
  "\x7b\"name\":\"Deep\",\"package\":\"io.deep\",\"screens\":\x7b\"mainScreen\":[\"Home\",[".toList ++
    nestedComponent levels ++ "]]\x7d\x7d".toList

def nestedFiles (levels : Nat) : Host.Files :=
  { root := .dir [("deep.json", .file (String.ofList (nestedProject levels)).toUTF8 false)] }

def orderOf (project : List Char) : List Char :=
  "\x7b\"project\":".toList ++ project ++ "\x7d".toList

def requestOf (order : List Char) : Web.Request :=
  { method := .post, target := "/api/generate-apk"
    headers := [("content-type", "application/json")], body := (String.ofList order).toUTF8 }

def Project.reaches (levels : Nat) (p : Project) : Bool :=
  p.screens.entries.any fun e => e.2.depth == levels

theorem Project.exists_depth_of_reaches {p : Project} {levels : Nat} (h : p.reaches levels = true) :
    ∃ e ∈ p.screens.entries, e.2.depth = levels := by
  obtain ⟨e, he, hdepth⟩ := List.any_eq_true.mp h
  exact ⟨e, he, eq_of_beq hdepth⟩

theorem fromUTF8?_toUTF8 (s : String) : String.fromUTF8? s.toUTF8 = some s := by
  rw [String.fromUTF8?]
  exact dif_pos s.isValidUTF8

theorem ofText_ofList (cs : List Char) : Document.ofText (String.ofList cs) = .ofChars cs := by
  rw [Document.ofText, String.toList_ofList]

theorem loadProject_nestedFiles {levels : Nat} {p : Project}
    (h : (Document.ofChars (nestedProject levels)).read Project.read = .ok p) :
    loadProject (nestedFiles levels) "deep.json" = .ok p := by
  have hread : (nestedFiles levels).read "deep.json" =
      .ok (String.ofList (nestedProject levels)).toUTF8 := by rfl
  have htext : (nestedFiles levels).readText "deep.json" =
      .ok (String.ofList (nestedProject levels)) := by
    apply bind_eq_ok_iff.mpr
    refine ⟨_, hread, ?_⟩
    rw [fromUTF8?_toUTF8]
  apply bind_eq_ok_iff.mpr
  refine ⟨_, mapError_eq_ok_iff.mpr htext, mapError_eq_ok_iff.mpr ?_⟩
  rw [Project.ofText, ofText_ofList, h]

theorem readBody_requestOf {order : List Char} {o : Order}
    (h : (Document.ofChars order).read Order.read = .ok o) :
    readBody (requestOf order).body.size Order.read (requestOf order) = .ok o := by
  have htype : (((requestOf order).plainHeader? "content-type").bind
      Web.MediaType.ofText?).any Web.MediaType.isJson = true := by
    unfold requestOf Web.Request.plainHeader? Web.Request.header?
    dsimp only
    decide +kernel
  have hbody : Text.decodeLossy (requestOf order).body = String.ofList order := by
    rw [Text.decodeLossy, requestOf, fromUTF8?_toUTF8]
  rw [readBody, htype, hbody, ofText_ofList, h, if_neg (by decide), if_neg (Nat.lt_irrefl _)]
  rfl

theorem nesting_reaches_bounds :
    (∃ p, loadProject (nestedFiles 61) "deep.json" = .ok p ∧ p.NestsWithin 62 ∧
      ∃ e ∈ p.screens.entries, e.2.depth = 62) ∧
    ∃ r limit o p, readBody limit Order.read r = .ok o ∧ o.project? = .ok p ∧
      p.NestsWithin 61 ∧ ∃ e ∈ p.screens.entries, e.2.depth = 61 := by
  obtain ⟨hfile, hbody, -⟩ := accepted_nesting_bounded
  constructor
  · have hread : ((Document.ofChars (nestedProject 61)).read Project.read).toOption.any
        (Project.reaches 62) = true := by decide +kernel
    obtain ⟨p, hp, hreaches⟩ := (Option.any_eq_true _ _).mp hread
    have hload := loadProject_nestedFiles (toOption_eq_some_iff.mp hp)
    exact ⟨p, hload, hfile _ _ p hload, p.exists_depth_of_reaches hreaches⟩
  · have hread : ((Document.ofChars (orderOf (nestedProject 60))).read Order.read).toOption.any
        (fun o => o.project?.toOption.any (Project.reaches 61)) = true := by decide +kernel
    obtain ⟨o, ho, hproject⟩ := (Option.any_eq_true _ _).mp hread
    obtain ⟨p, hp, hreaches⟩ := (Option.any_eq_true _ _).mp hproject
    have horder := readBody_requestOf (toOption_eq_some_iff.mp ho)
    have htaken := toOption_eq_some_iff.mp hp
    exact ⟨_, _, o, p, horder, htaken, hbody _ _ o p horder htaken,
      p.exists_depth_of_reaches hreaches⟩

end AppScaffold.App
