import AppScaffold.App.Project
import AppScaffold.Render.Component

/-!
# Layouts

The document of a screen: its components inside a linear group that fills the display, or the
name of the app when the screen has none.
-/

set_option autoImplicit false

namespace AppScaffold.Render

open Xml (Markup android)

def emptyScreen (appName : String) : Markup :=
  .leaf "TextView"
    (size "wrap_content" "wrap_content" ++
      [android "layout_gravity" "center", android "text" appName,
        android "layout_margin" "16dp", android "textSize" "24sp"])

def screenBody (requested : Nat) (appName : String) (s : App.Screen) : List Markup :=
  if s.components.isEmpty then [emptyScreen appName]
  else markupAll (nestingLimit requested) 1 s.components

def layoutStart : String :=
  Xml.prolog ++
    "<LinearLayout xmlns:android=\"http://schemas.android.com/apk/res/android\"\n" ++
    "    android:layout_width=\"match_parent\"\n" ++
    "    android:layout_height=\"match_parent\"\n" ++
    "    android:orientation=\"vertical\">\n\n"

def layoutEnd : String := "</LinearLayout>\n"

def layout (requested : Nat) (appName : String) (s : App.Screen) : String :=
  layoutStart ++ Markup.printAll 1 (screenBody requested appName s) ++ layoutEnd

end AppScaffold.Render
