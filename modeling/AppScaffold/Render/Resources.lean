import AppScaffold.App.Project
import AppScaffold.Xml.Markup

/-!
# Resources

The string resources of an app, and the documents that are the same for every app: palette,
theme and placeholder image.
-/

set_option autoImplicit false

namespace AppScaffold.Render

def stringResource (name value : String) : String :=
  "    <string name=\"" ++ name ++ "\">" ++ Xml.resourceText value ++ "</string>\n"

/-- The name of the app, then the name of every screen but the main one. -/
def strings (p : App.Project) : String :=
  Xml.prolog ++ "<resources>\n" ++ stringResource "app_name" p.name ++
    String.join (p.secondaryScreens.map fun s => stringResource ("screen_" ++ s.1) s.2.name) ++
    "</resources>\n"

def colors : String :=
  Xml.prolog ++
  "<resources>\n" ++
  "    <color name=\"colorPrimary\">#4285F4</color>\n" ++
  "    <color name=\"colorPrimaryDark\">#3367D6</color>\n" ++
  "    <color name=\"colorAccent\">#F4B400</color>\n" ++
  "    <color name=\"textColorPrimary\">#212121</color>\n" ++
  "    <color name=\"textColorSecondary\">#757575</color>\n" ++
  "</resources>\n"

def styles : String :=
  Xml.prolog ++
  "<resources>\n" ++
  "    <style name=\"AppTheme\" parent=\"Theme.AppCompat.Light.DarkActionBar\">\n" ++
  "        <item name=\"colorPrimary\">@color/colorPrimary</item>\n" ++
  "        <item name=\"colorPrimaryDark\">@color/colorPrimaryDark</item>\n" ++
  "        <item name=\"colorAccent\">@color/colorAccent</item>\n" ++
  "    </style>\n" ++
  "</resources>\n"

/-- A grey box. -/
def placeholder : String :=
  Xml.prolog ++
  "<shape xmlns:android=\"http://schemas.android.com/apk/res/android\"\n" ++
  "    android:shape=\"rectangle\">\n" ++
  "    <solid android:color=\"#E0E0E0\" />\n" ++
  "    <size\n" ++
  "        android:width=\"96dp\"\n" ++
  "        android:height=\"96dp\" />\n" ++
  "</shape>\n"

end AppScaffold.Render
