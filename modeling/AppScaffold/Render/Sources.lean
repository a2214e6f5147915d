import AppScaffold.App.Project
import AppScaffold.Render.Manifest

/-!
# Sources and build files

The activity classes and the build files of a project. User text inside a comment or a string
literal is kept on one line and cannot end what surrounds it.
-/

set_option autoImplicit false

namespace AppScaffold.Render

def singleLine (cs : List Char) : List Char :=
  cs.map fun c => if c == '\r' || c == '\n' then ' ' else c

/-- A backslash parts every end of a block comment. -/
def guardCommentEnd : List Char → List Char
  | '*' :: '/' :: cs => '*' :: '\\' :: '/' :: guardCommentEnd cs
  | c :: cs => c :: guardCommentEnd cs
  | [] => []

def blockComment (s : String) : String := String.ofList (guardCommentEnd (singleLine s.toList))

/-- Text inside double quotes: backslashes and quotes are escaped. -/
def doubleQuoted (s : String) : String :=
  String.ofList ((singleLine s.toList).flatMap fun c =>
    if c == '\\' || c == '"' then ['\\', c] else [c])

def unlines (ls : List String) : String := String.join (ls.map fun l => l ++ "\n")

/-- What distinguishes one activity class from another. -/
structure Activity where
  package : String
  summary : String
  className : String
  layout : String
deriving DecidableEq, Repr, Inhabited

namespace Activity

def main (p : App.Project) : Activity :=
  { package := p.package
    summary := "Main Activity for " ++ blockComment p.name
    className := mainActivityName
    layout := App.layoutName App.mainScreenId }

def ofScreen (p : App.Project) (id : String) (s : App.Screen) : Activity :=
  { package := p.package
    summary := "Activity for " ++ blockComment s.name ++ " screen"
    className := s.activityName
    layout := App.layoutName id }

def lines (a : Activity) : List String :=
  [ "package " ++ a.package ++ ";",
    "",
    "import android.os.Bundle;",
    "import androidx.appcompat.app.AppCompatActivity;",
    "",
    "/**",
    " * " ++ a.summary,
    " * Generated by ZeroApp Builder",
    " */",
    "public class " ++ a.className ++ " extends AppCompatActivity \x7b",
    "",
    "    @Override",
    "    protected void onCreate(Bundle savedInstanceState) \x7b",
    "        super.onCreate(savedInstanceState);",
    "        setContentView(R.layout." ++ a.layout ++ ");",
    "",
    "        // Initialize UI components",
    "        initializeComponents();",
    "    \x7d",
    "",
    "    private void initializeComponents() \x7b",
    "        // Component initialization will be generated here",
    "    \x7d",
    "\x7d"]

def source (a : Activity) : String := unlines a.lines

end Activity

def repositories : List String := [
  "    repositories \x7b",
  "        google()",
  "        mavenCentral()",
  "    \x7d"]

def pluginVersion : String := "7.0.4"

def rootBuild (p : App.Project) : String :=
  unlines (
    ["// Top-level build file for " ++ String.ofList (singleLine p.name.toList),
      "buildscript \x7b"] ++ repositories ++
    ["    dependencies \x7b",
      "        classpath 'com.android.tools.build:gradle:" ++ pluginVersion ++ "'",
      "    \x7d",
      "\x7d",
      "",
      "allprojects \x7b"] ++ repositories ++
    ["\x7d",
      "",
      "task clean(type: Delete) \x7b",
      "    delete rootProject.buildDir",
      "\x7d"])

def compileSdk : Nat := 31

def minSdk : Nat := 21

def targetSdk : Nat := 31

def dependencies : List String := [
  "androidx.appcompat:appcompat:1.4.0",
  "com.google.android.material:material:1.4.0",
  "androidx.constraintlayout:constraintlayout:2.1.2"]

def appBuild (p : App.Project) : String :=
  unlines (
    ["plugins \x7b",
      "    id 'com.android.application'",
      "\x7d",
      "",
      "android \x7b",
      "    compileSdkVersion " ++ Nat.repr compileSdk,
      "",
      "    defaultConfig \x7b",
      "        applicationId \"" ++ p.package ++ "\"",
      "        minSdkVersion " ++ Nat.repr minSdk,
      "        targetSdkVersion " ++ Nat.repr targetSdk,
      "        versionCode 1",
      "        versionName \"" ++ doubleQuoted p.version ++ "\"",
      "    \x7d",
      "",
      "    buildTypes \x7b",
      "        release \x7b",
      "            minifyEnabled false",
      "            proguardFiles getDefaultProguardFile('proguard-android-optimize.txt'), " ++
        "'proguard-rules.pro'",
      "        \x7d",
      "    \x7d",
      "",
      "    compileOptions \x7b",
      "        sourceCompatibility JavaVersion.VERSION_1_8",
      "        targetCompatibility JavaVersion.VERSION_1_8",
      "    \x7d",
      "\x7d",
      "",
      "dependencies \x7b"] ++
    dependencies.map (fun d => "    implementation '" ++ d ++ "'") ++
    ["\x7d"])

def settingsFile : String := "include \":app\"\n"

def propertiesFile : String :=
  "org.gradle.jvmargs=-Xmx2048m\nandroid.useAndroidX=true\nandroid.enableJetifier=true\n"

end AppScaffold.Render
