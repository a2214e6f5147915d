import AppScaffold.App.Component
import AppScaffold.Xml.Markup

/-!
# Components as markup

Each component is one view element; an unknown kind is a comment and a text view, and a navigation
bar holds one button per item. Only containers hold other components. Their children are left out
from the nesting limit on, and a marker comment stands in their place.
-/

set_option autoImplicit false

namespace AppScaffold.Render

open App (Component)
open Xml (Markup Attribute android android?)

/-- The limit in force for a limit asked for: one level is always shown. -/
def nestingLimit (requested : Nat) : Nat := max requested 1

def defaultLimit : Nat := 32

def placeholderDrawable : String := "@drawable/placeholder"

def size (width height : String) : List Attribute :=
  [android "layout_width" width, android "layout_height" height]

def textAttributes (p : App.TextProps) : List Attribute :=
  size "wrap_content" "wrap_content" ++ [android "text" (p.content.getD "Text")] ++
    android? "gravity" p.textAlign ++ android? "textSize" p.fontSize ++
    (if p.isBold then [android "textStyle" "bold"] else []) ++
    android? "textColor" p.color ++ android? "layout_margin" p.margin

def buttonAttributes (p : App.ButtonProps) : List Attribute :=
  size "wrap_content" "wrap_content" ++ [android "text" (p.content.getD "Button")] ++
    android? "backgroundTint" p.backgroundColor ++ android? "textColor" p.color ++
    android? "layout_margin" p.margin

def containerAttributes (p : App.ContainerProps) : List Attribute :=
  size "match_parent" "wrap_content" ++ [android "orientation" p.layout.name] ++
    android? "padding" p.padding ++ android? "background" p.backgroundColor ++
    android? "layout_margin" p.margin

def inputAttributes (p : App.InputProps) : List Attribute :=
  size "match_parent" "wrap_content" ++
    [android "hint" (p.placeholder.getD "Enter text"),
      android "inputType" p.inputType.androidName] ++
    android? "layout_margin" p.margin

/-- A given width or height follows the usual one. -/
def imageAttributes (p : App.ImageProps) : List Attribute :=
  size "wrap_content" "wrap_content" ++
    [android "layout_gravity" "center", android "src" placeholderDrawable,
      android "contentDescription" (p.alt.getD "Image")] ++
    android? "layout_margin" p.margin ++ android? "layout_width" p.width ++
    android? "layout_height" p.height

def listAttributes (p : App.ListProps) : List Attribute :=
  size "match_parent" "wrap_content" ++ android? "layout_margin" p.margin

def webViewAttributes (p : App.WebViewProps) : List Attribute :=
  size "match_parent" "match_parent" ++ android? "layout_margin" p.margin

def navigationAttributes : List Attribute :=
  size "match_parent" "wrap_content" ++
    [android "orientation" App.Orientation.horizontal.name, android "background" "#f0f0f0",
      android "padding" "8dp"]

def navButton (index : Nat) (item : App.NavItem) : Markup :=
  .leaf "Button"
    (size "0dp" "wrap_content" ++
      [android "layout_weight" "1", android "text" item.label,
        android "id" ("@+id/nav_" ++ Nat.repr index),
        ⟨"style", "?android:attr/buttonBarButtonStyle"⟩])

def navButtons (index : Nat) : List App.NavItem → List Markup
  | [] => []
  | item :: rest => navButton index item :: navButtons (index + 1) rest

def omission (limit : Nat) : Markup :=
  .comment ("Nesting limit of " ++ Nat.repr limit ++ " reached; children omitted")

mutual

/-- The markup of a component that stands at `depth`, the outermost one at depth one. -/
def markup (limit depth : Nat) : Component → List Markup
  | .text p => [.leaf "TextView" (textAttributes p)]
  | .button p => [.leaf "Button" (buttonAttributes p)]
  | .container p children =>
    [.group "LinearLayout" (containerAttributes p)
      (if limit ≤ depth then
        if children.isEmpty then [] else [omission limit]
      else markupAll limit (depth + 1) children)]
  | .input p => [.leaf "EditText" (inputAttributes p)]
  | .image p => [.leaf "ImageView" (imageAttributes p)]
  | .list p => [.leaf "ListView" (listAttributes p)]
  | .webview p => [.leaf "WebView" (webViewAttributes p)]
  | .navigation p => [.group "LinearLayout" navigationAttributes (navButtons 0 p.effective)]
  | .unknown kind =>
    [.comment ("Unknown component type: " ++ kind),
      .leaf "TextView"
        (size "wrap_content" "wrap_content" ++ [android "text" ("Component: " ++ kind)])]

def markupAll (limit depth : Nat) : List Component → List Markup
  | [] => []
  | c :: rest => markup limit depth c ++ markupAll limit depth rest

end

def component (requested level : Nat) (c : Component) : String :=
  Markup.printAll level (markup (nestingLimit requested) 1 c)

end AppScaffold.Render
