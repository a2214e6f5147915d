import AppScaffold.Proofs.Xml.RoundTrip
import AppScaffold.Render.Component

/-!
# The elements of components

Which attributes the element of a component has, and that the markup of components can be read:
every tag and every attribute name is a name, and a kind without a pair of hyphens leaves none in
its comment.
-/

set_option autoImplicit false

namespace AppScaffold.App.Component

mutual

def unknownKinds : Component → List String
  | .unknown kind => [kind]
  | .container _ children => unknownKindsAll children
  | _ => []

def unknownKindsAll : List Component → List String
  | [] => []
  | c :: rest => c.unknownKinds ++ unknownKindsAll rest

end

theorem depth_pos (c : Component) : 0 < c.depth := by
  cases c with
  | container p children =>
    rw [depth]
    omega
  | _ => simp [depth]

theorem eq_nil_of_depthAll_eq_zero {cs : List Component} (h : depthAll cs = 0) : cs = [] := by
  cases cs with
  | nil => rfl
  | cons c rest =>
    have hpos := depth_pos c
    simp only [depthAll] at h
    omega

end AppScaffold.App.Component

namespace AppScaffold.Render

open App (Component NavItem)
open Xml (Attribute Markup android android?)

/-! ## Attributes -/

def attributes : Component → List Attribute
  | .text p => textAttributes p
  | .button p => buttonAttributes p
  | .container p _ => containerAttributes p
  | .input p => inputAttributes p
  | .image p => imageAttributes p
  | .list p => listAttributes p
  | .webview p => webViewAttributes p
  | .navigation _ => navigationAttributes
  | .unknown kind =>
    size "wrap_content" "wrap_content" ++ [android "text" ("Component: " ++ kind)]

def keys : List String :=
  ["layout_width", "layout_height", "text", "gravity", "textSize", "textStyle", "textColor",
    "layout_margin", "backgroundTint", "orientation", "padding", "background", "hint", "inputType",
    "layout_gravity", "src", "contentDescription", "layout_weight", "id"]

theorem isName_key {name : String} (h : name ∈ keys) : Xml.isName ("android:" ++ name) := by
  revert name
  decide

theorem all_android? {p : Attribute → Bool} (name : String) (value : Option String)
    (h : ∀ v, p (android name v)) : (android? name value).all p := by
  cases value with
  | none => rfl
  | some v => simp [android?, h]

theorem all_isName_attributes (c : Component) :
    (attributes c).all fun a => Xml.isName a.name := by
  have hone : ∀ name ∈ keys, ∀ v, Xml.isName (android name v).name = true :=
    fun _ h _ => isName_key h
  have hgiven : ∀ name ∈ keys, ∀ v,
      (android? name v).all (fun a => Xml.isName a.name) = true :=
    fun name h v => all_android? name v (hone name h)
  simp only [keys, List.forall_mem_cons] at hone hgiven
  have hbold (b : Bool) : (if b = true then [android "textStyle" "bold"] else []).all
      (fun a => Xml.isName a.name) = true := by
    cases b <;> simp [hone]
  cases c <;>
    simp [attributes, textAttributes, buttonAttributes, containerAttributes, inputAttributes,
      imageAttributes, listAttributes, webViewAttributes, navigationAttributes, size, hone,
      hgiven, hbold, -List.all_eq_true]

/-! ## Markup that can be read -/

theorem readable_navButtons (index : Nat) (items : List NavItem) :
    Markup.ReadableAll (navButtons index items) := by
  induction items generalizing index with
  | nil => trivial
  | cons item rest ih =>
    have hbutton : (navButton index item).Readable := by
      refine ⟨rfl, ?_⟩
      simp only [size, List.cons_append, List.nil_append, List.forall_mem_cons]
      refine ⟨isName_key ?_, isName_key ?_, isName_key ?_, isName_key ?_, isName_key ?_, rfl, ?_⟩
      all_goals simp [keys]
    exact ⟨hbutton, ih (index + 1)⟩

theorem not_mem_toDigits {n : Nat} {c : Char} (hc : c.isDigit = false) :
    c ∉ Nat.toDigits 10 n := by
  intro h
  have hdigit := Nat.isDigit_of_mem_toDigits (by decide) (by decide) h
  simp [hc] at hdigit

def omissionText (limit : Nat) : String :=
  "Nesting limit of " ++ Nat.repr limit ++ " reached; children omitted"

theorem hyphensApart_omissionText (limit : Nat) :
    Xml.HyphensApart (omissionText limit).toList := by
  apply Xml.hyphensApart_of_not_mem
  unfold omissionText
  simp [not_mem_toDigits (c := '-') rfl]

theorem readable_omission (limit : Nat) : (omission limit).Readable := by
  have h := hyphensApart_omissionText limit
  change Xml.HyphensApart (Xml.partHyphens (omissionText limit).toList)
  rwa [Xml.partHyphens_of_hyphensApart h]

theorem readable_leaf {c : Component} {tag : String} (htag : Xml.isName tag) :
    (Markup.leaf tag (attributes c)).Readable :=
  ⟨htag, List.all_eq_true.mp (all_isName_attributes c)⟩

theorem hyphensApart_unknown {kind : String} (h : ¬ ['-', '-'] <:+: kind.toList) :
    Xml.HyphensApart ("Unknown component type: " ++ kind).toList := by
  rw [String.toList_append]
  exact Xml.hyphensApart_append (by simp) ((Xml.hyphensApart_iff _).mpr h)

def PlainKinds (kinds : List String) : Prop := ∀ kind ∈ kinds, ¬ ['-', '-'] <:+: kind.toList

theorem plainKinds_append {ks ls : List String} (h : PlainKinds (ks ++ ls)) :
    PlainKinds ks ∧ PlainKinds ls :=
  ⟨fun k hk => h k (List.mem_append_left _ hk), fun k hk => h k (List.mem_append_right _ hk)⟩

mutual

theorem readable_markup (limit : Nat) : ∀ (depth : Nat) (c : Component),
    PlainKinds c.unknownKinds → Markup.ReadableAll (markup limit depth c)
  | _, .text p, _ => ⟨readable_leaf (c := .text p) rfl, trivial⟩
  | _, .button p, _ => ⟨readable_leaf (c := .button p) rfl, trivial⟩
  | _, .input p, _ => ⟨readable_leaf (c := .input p) rfl, trivial⟩
  | _, .image p, _ => ⟨readable_leaf (c := .image p) rfl, trivial⟩
  | _, .list p, _ => ⟨readable_leaf (c := .list p) rfl, trivial⟩
  | _, .webview p, _ => ⟨readable_leaf (c := .webview p) rfl, trivial⟩
  | _, .navigation p, _ =>
    ⟨⟨rfl, List.all_eq_true.mp (all_isName_attributes (.navigation p)),
      readable_navButtons 0 p.effective⟩, trivial⟩
  | _, .unknown kind, h => by
    have happart := hyphensApart_unknown (h kind List.mem_cons_self)
    refine ⟨?_, readable_leaf (c := .unknown kind) rfl, trivial⟩
    rw [Markup.Readable, Xml.partHyphens_of_hyphensApart happart]
    exact happart
  | depth, .container p children, h => by
    refine ⟨⟨rfl, List.all_eq_true.mp (all_isName_attributes (.container p children)), ?_⟩,
      trivial⟩
    split
    · split
      · trivial
      · exact ⟨readable_omission limit, trivial⟩
    · exact readable_markupAll limit (depth + 1) children h

theorem readable_markupAll (limit : Nat) : ∀ (depth : Nat) (cs : List Component),
    PlainKinds (Component.unknownKindsAll cs) → Markup.ReadableAll (markupAll limit depth cs)
  | _, [], _ => trivial
  | depth, c :: rest, h => by
    obtain ⟨hc, hrest⟩ := plainKinds_append h
    exact Markup.readableAll_append (readable_markup limit depth c hc)
      (readable_markupAll limit depth rest hrest)

end

end AppScaffold.Render
