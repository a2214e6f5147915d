/-!
# Components

The elements a screen is made of. Optional properties hold `none` or a non-empty text; a kind
outside the known ones is kept by name.
-/

set_option autoImplicit false

namespace AppScaffold.App

inductive Orientation where
  | vertical
  | horizontal
deriving DecidableEq, Repr, Inhabited

namespace Orientation

/-- Only `horizontal`, spelt so, selects a horizontal group. -/
def ofName? : Option String → Orientation
  | some "horizontal" => .horizontal
  | _ => .vertical

def name : Orientation → String
  | .vertical => "vertical"
  | .horizontal => "horizontal"

end Orientation

inductive InputKind where
  | email
  | password
  | number
  | phone
  | text
deriving DecidableEq, Repr, Inhabited

namespace InputKind

/-- Names that are not known stand for plain text. -/
def ofName? : Option String → InputKind
  | some "email" => .email
  | some "password" => .password
  | some "number" => .number
  | some "phone" => .phone
  | _ => .text

def androidName : InputKind → String
  | .email => "textEmailAddress"
  | .password => "textPassword"
  | .number => "number"
  | .phone => "phone"
  | .text => "text"

end InputKind

structure TextProps where
  content : Option String := none
  textAlign : Option String := none
  fontSize : Option String := none
  fontWeight : Option String := none
  color : Option String := none
  margin : Option String := none
deriving DecidableEq, Repr, Inhabited

def TextProps.isBold (p : TextProps) : Bool := p.fontWeight == some "bold"

structure ButtonProps where
  content : Option String := none
  backgroundColor : Option String := none
  color : Option String := none
  margin : Option String := none
deriving DecidableEq, Repr, Inhabited

structure ContainerProps where
  layout : Orientation := .vertical
  padding : Option String := none
  backgroundColor : Option String := none
  margin : Option String := none
deriving DecidableEq, Repr, Inhabited

structure InputProps where
  placeholder : Option String := none
  inputType : InputKind := .text
  margin : Option String := none
deriving DecidableEq, Repr, Inhabited

structure ImageProps where
  alt : Option String := none
  margin : Option String := none
  width : Option String := none
  height : Option String := none
deriving DecidableEq, Repr, Inhabited

structure ListProps where
  margin : Option String := none
deriving DecidableEq, Repr, Inhabited

/-- The address is kept but no layout shows it. -/
structure WebViewProps where
  url : Option String := none
  margin : Option String := none
deriving DecidableEq, Repr, Inhabited

structure NavItem where
  label : String
  screen : Option String := none
deriving DecidableEq, Repr, Inhabited

structure NavigationProps where
  items : Option (List NavItem) := none
deriving DecidableEq, Repr, Inhabited

def mainScreenId : String := "mainScreen"

/-- The declared items, or Home, About and Contact. -/
def NavigationProps.effective (p : NavigationProps) : List NavItem :=
  p.items.getD [⟨"Home", some mainScreenId⟩, ⟨"About", none⟩, ⟨"Contact", none⟩]

inductive Component where
  | text (props : TextProps)
  | button (props : ButtonProps)
  | container (props : ContainerProps) (children : List Component)
  | input (props : InputProps)
  | image (props : ImageProps)
  | list (props : ListProps)
  | webview (props : WebViewProps)
  | navigation (props : NavigationProps)
  | unknown (kind : String)
deriving Repr, Inhabited

namespace Component

def kind : Component → String
  | .text _ => "text"
  | .button _ => "button"
  | .container _ _ => "container"
  | .input _ => "input"
  | .image _ => "image"
  | .list _ => "list"
  | .webview _ => "webview"
  | .navigation _ => "navigation"
  | .unknown kind => kind

mutual

def depth : Component → Nat
  | .container _ children => 1 + depthAll children
  | _ => 1

def depthAll : List Component → Nat
  | [] => 0
  | c :: rest => max c.depth (depthAll rest)

end

end Component

end AppScaffold.App
