import AppScaffold.App.Project
import AppScaffold.Json.Decode

/-!
# Reading projects

Projects and components out of JSON. A property may be a text, a number or a truth value; `null`
and the empty text count as absent. Which properties there are depends on the kind, and what a
kind does not use is not looked at.
-/

set_option autoImplicit false

namespace AppScaffold.App

open Json (Node Items Members Fault Read Shape Absent enter)

def scalarText? : Json → Option String
  | .text s => some s
  | .number n => some n.toText
  | .bool b => some (toString b)
  | _ => none

def present (s : String) : Option String := if s.isEmpty then none else some s

def readScalar : Node → Read (Option String)
  | .null _ => .ok none
  | n => do
    match scalarText? (← n.value) with
    | some s => return present s
    | none => .error ⟨.noVariant "Scalar", none, []⟩

/-- A record all of whose fields may be missing. -/
def looseShape (name : String) (fields : List String) : Shape :=
  ⟨name, fields.map fun f => (f, .filled)⟩

def TextProps.read : Node → Read TextProps :=
  Node.readRecord (fun key v p => do
    match key with
    | "content" => return { p with content := ← readScalar v }
    | "textAlign" => return { p with textAlign := ← readScalar v }
    | "fontSize" => return { p with fontSize := ← readScalar v }
    | "fontWeight" => return { p with fontWeight := ← readScalar v }
    | "color" => return { p with color := ← readScalar v }
    | _ => return { p with margin := ← readScalar v })
    (looseShape "TextProps" ["content", "textAlign", "fontSize", "fontWeight", "color", "margin"])
    {}

def ButtonProps.read : Node → Read ButtonProps :=
  Node.readRecord (fun key v p => do
    match key with
    | "content" => return { p with content := ← readScalar v }
    | "backgroundColor" => return { p with backgroundColor := ← readScalar v }
    | "color" => return { p with color := ← readScalar v }
    | _ => return { p with margin := ← readScalar v })
    (looseShape "ButtonProps" ["content", "backgroundColor", "color", "margin"]) {}

def ContainerProps.read : Node → Read ContainerProps :=
  Node.readRecord (fun key v p => do
    match key with
    | "layout" => return { p with layout := Orientation.ofName? (← readScalar v) }
    | "padding" => return { p with padding := ← readScalar v }
    | "backgroundColor" => return { p with backgroundColor := ← readScalar v }
    | _ => return { p with margin := ← readScalar v })
    (looseShape "ContainerProps" ["layout", "padding", "backgroundColor", "margin"]) {}

def InputProps.read : Node → Read InputProps :=
  Node.readRecord (fun key v p => do
    match key with
    | "placeholder" => return { p with placeholder := ← readScalar v }
    | "inputType" => return { p with inputType := InputKind.ofName? (← readScalar v) }
    | _ => return { p with margin := ← readScalar v })
    (looseShape "InputProps" ["placeholder", "inputType", "margin"]) {}

def ImageProps.read : Node → Read ImageProps :=
  Node.readRecord (fun key v p => do
    match key with
    | "alt" => return { p with alt := ← readScalar v }
    | "margin" => return { p with margin := ← readScalar v }
    | "width" => return { p with width := ← readScalar v }
    | _ => return { p with height := ← readScalar v })
    (looseShape "ImageProps" ["alt", "margin", "width", "height"]) {}

def ListProps.read : Node → Read ListProps :=
  Node.readRecord (fun _ v p => do return { p with margin := ← readScalar v })
    (looseShape "ListProps" ["margin"]) {}

def WebViewProps.read : Node → Read WebViewProps :=
  Node.readRecord (fun key v p => do
    match key with
    | "url" => return { p with url := ← readScalar v }
    | _ => return { p with margin := ← readScalar v })
    (looseShape "WebViewProps" ["url", "margin"]) {}

def NavItem.ofMembers? (members : List (String × Json)) : Option NavItem :=
  let scalar (key : String) : Option (Option String) :=
    match members.lookup key with
    | none => some none
    | some v => (readScalar (Node.ofJson v)).toOption
  match scalar "label", scalar "screen" with
  | some label, some screen => some ⟨label.getD "", screen⟩
  | _, _ => none

/-- A text is an entry with that label; an object may name a screen too. -/
def NavItem.ofJson? : Json → Option NavItem
  | .text label => some ⟨label, none⟩
  | .object members => NavItem.ofMembers? members
  | _ => none

def NavItem.read (n : Node) : Read NavItem := do
  match NavItem.ofJson? (← n.value) with
  | some item => return item
  | none => .error ⟨.noVariant "RawNavItem", none, []⟩

def NavigationProps.read : Node → Read NavigationProps :=
  Node.readRecord (fun _ v p => do
    return { p with items := ← v.readOption (Node.readList NavItem.read) })
    (looseShape "NavigationProps" ["items"]) {}

/-- A component before its kind is looked at. -/
structure Draft where
  kind : Option String := none
  properties : Option (List (String × Json)) := none
  children : Option (List Component) := none

namespace Draft

def shape : Shape := looseShape "RawComponent" ["type", "properties", "children"]

def readProperties : Node → Read (List (String × Json))
  | .object limit _ members => do
    enter limit
    members.values []
  | n => .error (n.mismatch "a map")

def readField (d : Draft) (key : String) (v : Node) : Read Draft := do
  match key with
  | "type" => return { d with kind := ← v.readOption Node.readText }
  | _ => return { d with properties := ← v.readOption readProperties }

def withChildren (d : Draft) (children : Option (List Component)) : Draft :=
  { d with children := children }

def finish (d : Draft) : Read Component :=
  let kind := d.kind.getD "unspecified"
  let props := Node.ofJson (.object (d.properties.getD []))
  let withProps {α : Type} (read : Node → Read α) (make : α → Component) : Read Component :=
    match read props with
    | .ok p => .ok (make p)
    | .error f =>
      .error ⟨.custom ("invalid properties for " ++ kind ++ " component: " ++ f.message), none, []⟩
  match kind with
  | "text" => withProps TextProps.read .text
  | "button" => withProps ButtonProps.read .button
  | "container" => withProps ContainerProps.read fun p => .container p (d.children.getD [])
  | "input" => withProps InputProps.read .input
  | "image" => withProps ImageProps.read .image
  | "list" => withProps ListProps.read .list
  | "webview" => withProps WebViewProps.read .webview
  | "navigation" => withProps NavigationProps.read .navigation
  | _ => .ok (.unknown kind)

end Draft

mutual

def Component.read : Node → Read Component
  | .object limit _ members => do
    enter limit
    (← readMembers {} [] members).finish
  | .array limit _ items => do
    enter limit
    (← readFields 0 {} items).finish
  | n => .error (n.mismatch Draft.shape.expected)

def Component.readChildren : Node → Read (Option (List Component))
  | .null _ => .ok none
  | .array limit _ items => do
    enter limit
    return some (← readItems 0 items)
  | n => .error (n.mismatch "a sequence")

def readItems (index : Nat) : Items → Read (List Component)
  | .closed _ => .ok []
  | .broken fault _ _ => .error fault
  | .item _ value resume rest => do
    let c ← (Component.read value).mapError fun f => (f.under (.index index)).placedAt resume
    return c :: (← readItems (index + 1) rest)

def readMembers (d : Draft) (seen : List String) : Members → Read Draft
  | .closed _ => .ok d
  | .broken fault _ _ => .error (fault.under .unknown)
  | .member (.error f) _ _ _ _ => .error (f.under .unknown)
  | .member (.ok key) keyPlaces value resume rest =>
    if Draft.shape.knows key then
      if seen.contains key then .error ⟨.duplicateField key, keyPlaces.resume, []⟩
      else
        let next :=
          if key == "children" then d.withChildren <$> Component.readChildren value
          else d.readField key value
        match next with
        | .error f => .error ((f.inMember key value).placedAt resume)
        | .ok d => readMembers d (key :: seen) rest
    else
      match value.skip with
      | .error f => .error (f.inMember key value)
      | .ok () => readMembers d seen rest

def readFields (index : Nat) (d : Draft) : Items → Read Draft
  | .closed _ => .ok d
  | .broken fault _ finish => .error (if index < 3 then fault else finish)
  | .item finish value resume rest =>
    match Draft.shape.fields[index]? with
    | none =>
      match finish with
      | some f => .error f
      | none => .ok d
    | some (key, _) =>
      let next :=
        if key == "children" then d.withChildren <$> Component.readChildren value
        else d.readField key value
      match next with
      | .error f => .error ((f.under (.index index)).placedAt resume)
      | .ok d => readFields (index + 1) d rest

end

/-- A value for `null` too. -/
def readNullable {α : Type} (read : Node → Read (List α)) (n : Node) : Read (List α) := do
  return (← n.readOption read).getD []

def Screen.read : Node → Read Screen :=
  Node.readRecord (fun key v s => do
    match key with
    | "name" => return { s with name := ← v.readText }
    | _ => return { s with components := ← readNullable (Node.readList Component.read) v })
    (looseShape "Screen" ["name", "components"]) {}

def Project.read : Node → Read Project :=
  Node.readRecord (fun key v p => do
    match key with
    | "name" => return { p with name := ← v.readText }
    | "package" => return { p with package := ← v.readText }
    | "version" => return { p with declaredVersion := ← readScalar v }
    | _ => return { p with screens := .ofList (← v.readMap Screen.read) })
    (looseShape "Project" ["name", "package", "version", "screens"]) {}

def Project.ofText (s : String) : Read Project := (Json.Document.ofText s).read Project.read

def Project.ofJson (v : Json) : Read Project := Project.read (Node.ofJson v)

def Component.ofText (s : String) : Read Component :=
  (Json.Document.ofText s).read Component.read

def Component.ofJson (v : Json) : Read Component := Component.read (Node.ofJson v)

end AppScaffold.App
