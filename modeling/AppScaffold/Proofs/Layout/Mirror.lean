import AppScaffold.Proofs.Layout.Element
import AppScaffold.Proofs.Xml.RoundTrip
import AppScaffold.Render.Layout

/-!
# Layouts mirror screens

What an XML reader finds in the layout of a screen: one root group, and in it a forest with the
shape of the component trees. Main statement: `layout_reads_as_screen`.
-/

set_option autoImplicit false

namespace AppScaffold.Render

open App (Component NavItem Screen)
open Xml (Attribute Markup Node android android?)

/-! ## The forest of a screen -/

/-- What the author of a component wrote, under the attribute that shows it. -/
def authored : Component → List Attribute
  | .text p =>
    android? "text" p.content ++ android? "gravity" p.textAlign ++
      android? "textSize" p.fontSize ++ android? "textColor" p.color ++
      android? "layout_margin" p.margin
  | .button p =>
    android? "text" p.content ++ android? "backgroundTint" p.backgroundColor ++
      android? "textColor" p.color ++ android? "layout_margin" p.margin
  | .container p _ =>
    android? "padding" p.padding ++ android? "background" p.backgroundColor ++
      android? "layout_margin" p.margin
  | .input p => android? "hint" p.placeholder ++ android? "layout_margin" p.margin
  | .image p =>
    android? "contentDescription" p.alt ++ android? "layout_margin" p.margin ++
      android? "layout_width" p.width ++ android? "layout_height" p.height
  | .list p => android? "layout_margin" p.margin
  | .webview p => android? "layout_margin" p.margin
  | .navigation _ => []
  | .unknown kind => [android "text" ("Component: " ++ kind)]

/-- The attributes that do not depend on any text of an author. -/
def standing : List Attribute :=
  ["wrap_content", "match_parent", "0dp"].flatMap (fun v => size v v) ++
    ["vertical", "horizontal"].map (android "orientation") ++
    ["textEmailAddress", "textPassword", "number", "phone", "text"].map (android "inputType") ++
    [android "text" "Text", android "text" "Button", android "hint" "Enter text",
      android "contentDescription" "Image", android "textStyle" "bold",
      android "layout_gravity" "center", android "src" placeholderDrawable,
      android "background" "#f0f0f0", android "padding" "8dp", android "layout_weight" "1",
      ⟨"style", "?android:attr/buttonBarButtonStyle"⟩, android "layout_margin" "16dp",
      android "textSize" "24sp"]

/-- All of what was given is there, in order, and nothing else depends on any author. -/
structure Carries (given attributes : List Attribute) : Prop where
  shown : given.Sublist attributes
  rest : ∀ a ∈ attributes, a ∈ given ∨ a ∈ standing

/-- The element that stands for a component without others inside. -/
def leafTag? : Component → Option String
  | .text _ => some "TextView"
  | .button _ => some "Button"
  | .input _ => some "EditText"
  | .image _ => some "ImageView"
  | .list _ => some "ListView"
  | .webview _ => some "WebView"
  | .container _ _ | .navigation _ | .unknown _ => none

/-- The buttons of a navigation bar, one for an item, numbered in order. -/
inductive Buttons : Nat → List NavItem → List Node → Prop
  | nil {index : Nat} : Buttons index [] []
  | cons {index : Nat} {item : NavItem} {rest : List NavItem} {attributes : List Attribute}
      {nodes : List Node} :
      Carries [android "text" item.label, android "id" ("@+id/nav_" ++ Nat.repr index)]
        attributes →
      Buttons (index + 1) rest nodes →
      Buttons index (item :: rest) (.element "Button" attributes [] :: nodes)

/-- A forest with the shape of a list of components: one element for each, in order, with the
elements of the children inside. An unknown component has a comment in front of its element. -/
inductive Mirrors : List Component → List Node → Prop
  | nil : Mirrors [] []
  | leaf {c : Component} {rest : List Component} {tag : String} {attributes : List Attribute}
      {nodes : List Node} :
      leafTag? c = some tag → Carries (authored c) attributes → Mirrors rest nodes →
      Mirrors (c :: rest) (.element tag attributes [] :: nodes)
  | container {p : App.ContainerProps} {children rest : List Component}
      {attributes : List Attribute} {body nodes : List Node} :
      Carries (authored (.container p children)) attributes → Mirrors children body →
      Mirrors rest nodes →
      Mirrors (.container p children :: rest) (.element "LinearLayout" attributes body :: nodes)
  | navigation {p : App.NavigationProps} {rest : List Component} {attributes : List Attribute}
      {buttons nodes : List Node} :
      Carries [] attributes → Buttons 0 p.effective buttons → Mirrors rest nodes →
      Mirrors (.navigation p :: rest) (.element "LinearLayout" attributes buttons :: nodes)
  | unknown {kind : String} {rest : List Component} {attributes : List Attribute}
      {nodes : List Node} :
      Carries (authored (.unknown kind)) attributes → Mirrors rest nodes →
      Mirrors (.unknown kind :: rest)
        (.comment (" Unknown component type: " ++ kind ++ " ") ::
          .element "TextView" attributes [] :: nodes)

/-- The forest of a whole screen; without components it is the name of the app. -/
def ScreenForest (appName : String) (components : List Component) (forest : List Node) : Prop :=
  if components = [] then
    ∃ attributes, Carries [android "text" appName] attributes ∧
      forest = [.element "TextView" attributes []]
  else Mirrors components forest

/-! ## What elements carry -/

namespace Carries

theorem of_standing {as : List Attribute} (h : ∀ a ∈ as, a ∈ standing) : Carries [] as :=
  ⟨List.nil_sublist as, fun a ha => Or.inr (h a ha)⟩

theorem given (as : List Attribute) : Carries as as :=
  ⟨List.Sublist.refl as, fun _ ha => Or.inl ha⟩

theorem default (name : String) (value : Option String) {usual : String}
    (h : android name usual ∈ standing) :
    Carries (android? name value) [android name (value.getD usual)] := by
  cases value with
  | none => exact of_standing fun a ha => List.mem_singleton.mp ha ▸ h
  | some v => exact given _

theorem append {given₁ given₂ as₁ as₂ : List Attribute} (h₁ : Carries given₁ as₁)
    (h₂ : Carries given₂ as₂) : Carries (given₁ ++ given₂) (as₁ ++ as₂) := by
  refine ⟨h₁.shown.append h₂.shown, fun a ha => ?_⟩
  rcases List.mem_append.mp ha with ha | ha
  · exact (h₁.rest a ha).imp_left (List.mem_append_left _)
  · exact (h₂.rest a ha).imp_left (List.mem_append_right _)

end Carries

theorem standing_size {width height : String}
    (hw : width ∈ ["wrap_content", "match_parent", "0dp"])
    (hh : height ∈ ["wrap_content", "match_parent", "0dp"]) :
    Carries [] (size width height) := by
  apply Carries.of_standing
  intro a ha
  have hmem (v : String) (hv : v ∈ ["wrap_content", "match_parent", "0dp"]) (b : Attribute)
      (hb : b ∈ size v v) : b ∈ standing :=
    List.mem_append_left _ (List.mem_append_left _ (List.mem_append_left _
      (List.mem_flatMap.mpr ⟨v, hv, hb⟩)))
  rcases List.mem_pair.mp ha with rfl | rfl
  · exact hmem width hw _ List.mem_cons_self
  · exact hmem height hh _ (List.mem_cons_of_mem _ List.mem_cons_self)

theorem carries_attributes (c : Component) : Carries (authored c) (attributes c) := by
  cases c with
  | text p =>
    have hbold : Carries [] (if p.isBold then [android "textStyle" "bold"] else []) := by
      apply Carries.of_standing
      cases p.isBold <;> simp [standing]
    simpa [authored, attributes, textAttributes] using
      (standing_size (by simp) (by simp)).append <| (Carries.default "text" p.content
        (by simp [standing])).append <| (Carries.given _).append <| (Carries.given _).append <|
        hbold.append <| (Carries.given _).append (Carries.given _)
  | button p =>
    simpa [authored, attributes, buttonAttributes] using
      (standing_size (by simp) (by simp)).append <| (Carries.default "text" p.content
        (by simp [standing])).append <| (Carries.given _).append <| (Carries.given _).append
        (Carries.given _)
  | container p children =>
    have horientation : Carries [] [android "orientation" p.layout.name] := by
      apply Carries.of_standing
      cases p.layout <;> simp [standing, App.Orientation.name]
    simpa [authored, attributes, containerAttributes] using
      (standing_size (by simp) (by simp)).append <| horientation.append <|
        (Carries.given _).append <| (Carries.given _).append (Carries.given _)
  | input p =>
    have hkind : Carries [] [android "inputType" p.inputType.androidName] := by
      apply Carries.of_standing
      cases p.inputType <;> simp [standing, App.InputKind.androidName]
    simpa [authored, attributes, inputAttributes] using
      (standing_size (by simp) (by simp)).append <| (Carries.default "hint" p.placeholder
        (by simp [standing])).append <| hkind.append (Carries.given _)
  | image p =>
    have hfixed : Carries [] [android "layout_gravity" "center",
        android "src" placeholderDrawable] :=
      Carries.of_standing (by simp [standing])
    simpa [authored, attributes, imageAttributes] using
      (standing_size (by simp) (by simp)).append <| hfixed.append <|
        (Carries.default "contentDescription" p.alt (by simp [standing])).append <|
        (Carries.given _).append <| (Carries.given _).append (Carries.given _)
  | list p =>
    simpa [authored, attributes, listAttributes] using
      (standing_size (by simp) (by simp)).append (Carries.given _)
  | webview p =>
    simpa [authored, attributes, webViewAttributes] using
      (standing_size (by simp) (by simp)).append (Carries.given _)
  | navigation p =>
    exact Carries.of_standing (by
      simp [attributes, navigationAttributes, standing, size, App.Orientation.name])
  | unknown kind =>
    simpa [authored, attributes] using
      (standing_size (by simp) (by simp)).append (Carries.given _)

theorem carries_navButton (index : Nat) (item : NavItem) :
    Carries [android "text" item.label, android "id" ("@+id/nav_" ++ Nat.repr index)]
      (size "0dp" "wrap_content" ++
        [android "layout_weight" "1", android "text" item.label,
          android "id" ("@+id/nav_" ++ Nat.repr index),
          ⟨"style", "?android:attr/buttonBarButtonStyle"⟩]) := by
  have hweight : Carries [] [android "layout_weight" "1"] :=
    Carries.of_standing (by simp [standing])
  have hstyle : Carries [] [⟨"style", "?android:attr/buttonBarButtonStyle"⟩] :=
    Carries.of_standing (by simp [standing])
  simpa using (standing_size (by simp) (by simp)).append <| hweight.append <|
    (Carries.given [android "text" item.label,
      android "id" ("@+id/nav_" ++ Nat.repr index)]).append hstyle

/-! ## The shape -/

theorem buttons_navButtons (index : Nat) (items : List NavItem) :
    Buttons index items (Markup.nodes (navButtons index items)) := by
  induction items generalizing index with
  | nil => exact .nil
  | cons item rest ih => exact .cons (carries_navButton index item) (ih (index + 1))

theorem commentBody_unknown {kind : String} (h : ¬ ['-', '-'] <:+: kind.toList) :
    Xml.commentBody ("Unknown component type: " ++ kind) =
      " Unknown component type: " ++ kind ++ " " := by
  apply String.toList_inj.mp
  rw [Xml.commentBody, String.toList_ofList,
    Xml.partHyphens_of_hyphensApart (hyphensApart_unknown h)]
  simp

mutual

/-- The markup of a component that is not cut off stands for its shape, in front of any other. -/
theorem mirrors_markup (limit : Nat) : ∀ (depth : Nat) (c : Component) (rest : List Component)
    (nodes : List Node), depth + c.depth ≤ limit + 1 → PlainKinds c.unknownKinds →
    Mirrors rest nodes → Mirrors (c :: rest) (Markup.nodes (markup limit depth c) ++ nodes)
  | _, .text p, _, _, _, _, hrest => .leaf rfl (carries_attributes (.text p)) hrest
  | _, .button p, _, _, _, _, hrest => .leaf rfl (carries_attributes (.button p)) hrest
  | _, .input p, _, _, _, _, hrest => .leaf rfl (carries_attributes (.input p)) hrest
  | _, .image p, _, _, _, _, hrest => .leaf rfl (carries_attributes (.image p)) hrest
  | _, .list p, _, _, _, _, hrest => .leaf rfl (carries_attributes (.list p)) hrest
  | _, .webview p, _, _, _, _, hrest => .leaf rfl (carries_attributes (.webview p)) hrest
  | _, .navigation p, _, _, _, _, hrest =>
    .navigation (carries_attributes (.navigation p)) (buttons_navButtons 0 p.effective) hrest
  | _, .unknown kind, _, _, _, hplain, hrest => by
    have hmirrors := Mirrors.unknown (carries_attributes (.unknown kind)) hrest
    rw [← commentBody_unknown (hplain kind List.mem_cons_self)] at hmirrors
    exact hmirrors
  | depth, .container p children, rest, nodes, hdepth, hplain, hrest => by
    refine .container (carries_attributes (.container p children)) ?_ hrest
    rw [Component.depth] at hdepth
    split
    · have hzero : Component.depthAll children = 0 := by omega
      obtain rfl := Component.eq_nil_of_depthAll_eq_zero hzero
      exact .nil
    · exact mirrors_markupAll limit (depth + 1) children (by omega) hplain

theorem mirrors_markupAll (limit : Nat) : ∀ (depth : Nat) (cs : List Component),
    depth + Component.depthAll cs ≤ limit + 1 → PlainKinds (Component.unknownKindsAll cs) →
    Mirrors cs (Markup.nodes (markupAll limit depth cs))
  | _, [], _, _ => .nil
  | depth, c :: rest, hdepth, hplain => by
    obtain ⟨hc, hrest⟩ := plainKinds_append hplain
    rw [Component.depthAll] at hdepth
    rw [markupAll, Markup.nodes_append]
    exact mirrors_markup limit depth c rest _ (by omega) hc
      (mirrors_markupAll limit depth rest (by omega) hrest)

end

/-! ## Whole documents -/

def rootAttributes : List Attribute :=
  ⟨"xmlns:android", "http://schemas.android.com/apk/res/android"⟩ ::
    size "match_parent" "match_parent" ++ [android "orientation" "vertical"]

/-- One line at a time: the reader is inside the root tag at the end of each. -/
theorem steps_layoutStart :
    (Xml.Mode.text []).steps layoutStart.toList = some (.text ['\n', '\n'],
      [.instruction "xml version=\"1.0\" encoding=\"utf-8\"",
        .startTag "LinearLayout" rootAttributes]) := by
  have htag : (Xml.Mode.text ['\n']).steps
      "<LinearLayout xmlns:android=\"http://schemas.android.com/apk/res/android\"\n".toList =
      some (.inside "LinearLayout".toList (rootAttributes.take 1) true, []) := by
    decide +kernel
  have hwidth : (Xml.Mode.inside "LinearLayout".toList (rootAttributes.take 1) true).steps
      "    android:layout_width=\"match_parent\"\n".toList =
      some (.inside "LinearLayout".toList (rootAttributes.take 2) true, []) := by
    decide
  have hheight : (Xml.Mode.inside "LinearLayout".toList (rootAttributes.take 2) true).steps
      "    android:layout_height=\"match_parent\"\n".toList =
      some (.inside "LinearLayout".toList (rootAttributes.take 3) true, []) := by
    decide
  have horientation : (Xml.Mode.inside "LinearLayout".toList (rootAttributes.take 3) true).steps
      "    android:orientation=\"vertical\">\n\n".toList =
      some (.text ['\n', '\n'], [.startTag "LinearLayout" rootAttributes]) := by
    decide
  have hrun := Xml.Mode.steps_append (Xml.Mode.steps_append (Xml.Mode.steps_append
    (Xml.Mode.steps_append Xml.Mode.steps_prolog htag) hwidth) hheight) horientation
  unfold layoutStart
  simp only [String.toList_append]
  exact hrun

theorem readsAs_layoutEnd : Xml.ReadsAs layoutEnd.toList [.endTag "LinearLayout"] := by
  have hrun : Xml.Mode.opening.steps "/LinearLayout>".toList =
      some (.text [], [.endTag "LinearLayout"]) := rfl
  exact Xml.ReadsAs.of_opening 0 ['\n'] rfl hrun

theorem ofText?_layout {requested : Nat} {appName : String} {s : Screen}
    (h : Markup.ReadableAll (screenBody requested appName s)) :
    Node.ofText? (layout requested appName s) =
      some [.element "LinearLayout" rootAttributes
        (Markup.nodes (screenBody requested appName s))] := by
  obtain ⟨after, hafter, hrun⟩ :=
    ((Markup.readsAs_printAll 1 _ h).append readsAs_layoutEnd) ['\n', '\n'] rfl
  have hsteps := Xml.Mode.steps_append steps_layoutStart hrun
  have htokens : Xml.Token.ofText? (layout requested appName s) =
      some (.instruction "xml version=\"1.0\" encoding=\"utf-8\"" ::
        .startTag "LinearLayout" rootAttributes ::
        (Markup.tokensAll (screenBody requested appName s) ++ [.endTag "LinearLayout"])) := by
    rw [Xml.Token.ofText?, layout, String.toList_append, String.toList_append, List.append_assoc,
      hsteps, Option.bind_some, Xml.Mode.finish_of_isSpace hafter]
    simp only [List.cons_append, List.nil_append]
  rw [Node.ofText?, htokens]
  simp [Node.assemble, Markup.assemble_tokensAll]

theorem readable_screenBody {requested : Nat} {appName : String} {s : Screen}
    (h : PlainKinds (Component.unknownKindsAll s.components)) :
    Markup.ReadableAll (screenBody requested appName s) := by
  unfold screenBody
  split
  · refine ⟨⟨rfl, ?_⟩, trivial⟩
    simp only [size, List.cons_append, List.nil_append, List.forall_mem_cons]
    refine ⟨isName_key ?_, isName_key ?_, isName_key ?_, isName_key ?_, isName_key ?_,
      isName_key ?_, by simp⟩
    all_goals simp [keys]
  · exact readable_markupAll _ 1 _ h

theorem screenForest_screenBody {requested : Nat} {appName : String} {s : Screen}
    (hdepth : s.depth ≤ nestingLimit requested)
    (hplain : PlainKinds (Component.unknownKindsAll s.components)) :
    ScreenForest appName s.components (Markup.nodes (screenBody requested appName s)) := by
  unfold ScreenForest screenBody
  by_cases hempty : s.components = []
  · rw [if_pos hempty, if_pos (by simp [hempty])]
    refine ⟨_, ?_, rfl⟩
    have hgravity : Carries [] [android "layout_gravity" "center"] :=
      Carries.of_standing (by simp [standing])
    have htail : Carries [] [android "layout_margin" "16dp", android "textSize" "24sp"] :=
      Carries.of_standing (by simp [standing])
    simpa using (standing_size (by simp) (by simp)).append <| hgravity.append <|
      (Carries.given [android "text" appName]).append htail
  · rw [if_neg hempty, if_neg (by simpa using hempty)]
    apply mirrors_markupAll _ 1 _ _ hplain
    rw [Screen.depth] at hdepth
    omega

/-- The layout of a screen that the limit does not cut off reads as one root group around the
forest of the screen, whatever texts its components hold. -/
theorem layout_reads_as_screen (limit : Nat) (appName : String) (s : Screen)
    (hdepth : s.depth ≤ limit)
    (hplain : PlainKinds (Component.unknownKindsAll s.components)) :
    ∃ forest, Node.ofText? (layout limit appName s) =
        some [.element "LinearLayout" rootAttributes forest] ∧
      ScreenForest appName s.components forest := by
  have hlimit : s.depth ≤ nestingLimit limit := Nat.le_trans hdepth (Nat.le_max_left limit 1)
  exact ⟨_, ofText?_layout (readable_screenBody hplain),
    screenForest_screenBody hlimit hplain⟩

/-- A screen with quotes and angle brackets in its texts, a group in a group, and a kind with
single hyphens at both ends. -/
def markedScreen : Screen :=
  { name := "Home"
    components := [
      .text { content := some "a \"b\" <c> & 'd'", color := some "/><Button" },
      .container { padding := some "--" } [.container {} [.navigation {}], .unknown "-a-b-"]] }

theorem layout_reads_as_markedScreen :
    markedScreen.depth ≤ 3 ∧ PlainKinds (Component.unknownKindsAll markedScreen.components) ∧
      ∃ forest, Node.ofText? (layout 3 "<App>" markedScreen) =
          some [.element "LinearLayout" rootAttributes forest] ∧
        ScreenForest "<App>" markedScreen.components forest := by
  have hdepth : markedScreen.depth ≤ 3 := by decide
  have hplain : PlainKinds (Component.unknownKindsAll markedScreen.components) := by
    unfold PlainKinds
    decide
  exact ⟨hdepth, hplain, layout_reads_as_screen 3 "<App>" markedScreen hdepth hplain⟩

end AppScaffold.Render
