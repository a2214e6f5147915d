import AppScaffold.App.Project
import AppScaffold.Xml.Markup

/-!
# Manifests

The manifest names the package and the version, starts the app with the main activity, and lists
one plain activity for every other screen.
-/

set_option autoImplicit false

namespace AppScaffold.Render

def mainActivityName : String := "MainActivity"

def manifestStart (p : App.Project) : String :=
  Xml.prolog ++
    "<manifest xmlns:android=\"http://schemas.android.com/apk/res/android\"\n" ++
    "    package=\"" ++ Xml.escape p.package ++ "\"\n" ++
    "    android:versionCode=\"1\"\n" ++
    "    android:versionName=\"" ++ Xml.escape p.version ++ "\">\n\n"

def applicationStart : String :=
  "    <application\n" ++
  "        android:allowBackup=\"true\"\n" ++
  "        android:icon=\"@mipmap/ic_launcher\"\n" ++
  "        android:label=\"@string/app_name\"\n" ++
  "        android:supportsRtl=\"true\"\n" ++
  "        android:theme=\"@style/AppTheme\">\n\n"

def launcherActivity : String :=
  "        <activity\n" ++
  "            android:name=\"." ++ mainActivityName ++ "\"\n" ++
  "            android:exported=\"true\">\n" ++
  "            <intent-filter>\n" ++
  "                <action android:name=\"android.intent.action.MAIN\" />\n" ++
  "                <category android:name=\"android.intent.category.LAUNCHER\" />\n" ++
  "            </intent-filter>\n" ++
  "        </activity>\n\n"

def plainActivity (s : App.Screen) : String :=
  "        <activity android:name=\"." ++ s.activityName ++ "\" />\n\n"

def manifest (p : App.Project) : String :=
  manifestStart p ++ applicationStart ++ launcherActivity ++
    String.join (p.secondaryScreens.map fun s => plainActivity s.2) ++
    "    </application>\n\n" ++ "</manifest>\n"

end AppScaffold.Render
