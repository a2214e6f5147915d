import AppScaffold.Host.Environment
import AppScaffold.Json.Decode

/-!
# Settings

Everything that can be configured, its usual values, and its form in documents. What a document
leaves out keeps its usual value.
-/

set_option autoImplicit false

namespace AppScaffold.Config

open Host (Environment Path.join)
open Json (Node Read Shape)

structure ServerSettings where
  host : String := "0.0.0.0"
  port : Nat := 5000
  staticDir : String := "."
  bodyLimit : Nat := 50
  uploadLimit : Nat := 10
deriving DecidableEq, Repr, Inhabited

structure StorageSettings where
  workDir : String
  /-- Without one, artifacts go to `output` inside the work directory. -/
  outputDir : Option String := none
  uploadDir : String
deriving DecidableEq, Repr, Inhabited

structure RenderSettings where
  maxDepth : Nat := 32
deriving DecidableEq, Repr, Inhabited

structure KeystoreSettings where
  keyAlias : String := "app_key"
  algorithm : String := "RSA"
  keySize : Nat := 2048
  validityDays : Nat := 10000
  distinguishedName : String :=
    "CN=ZeroApp Builder, OU=Development, O=ZeroApp, L=Unknown, ST=Unknown, C=US"
  password : String := "android"
deriving DecidableEq, Repr, Inhabited

structure LoggingSettings where
  level : String := "info"
  directory : Option String := none
deriving DecidableEq, Repr, Inhabited

structure Settings where
  server : ServerSettings := {}
  storage : StorageSettings
  render : RenderSettings := {}
  keystore : KeystoreSettings := {}
  logging : LoggingSettings := {}
deriving DecidableEq, Repr, Inhabited

def maxWord : Nat := 0xFFFFFFFFFFFFFFFF

def maxHalfWord : Nat := 0xFFFFFFFF

def maxPort : Nat := 65535

def StorageSettings.usual (env : Environment) : StorageSettings :=
  { workDir := Path.join env.temporaryDir "zeroapp-builder"
    uploadDir := Path.join env.temporaryDir "zeroapp-uploads" }

def Settings.usual (env : Environment) : Settings := { storage := .usual env }

def openShape (name : String) (fields : List String) : Shape :=
  ⟨name, fields.map fun f => (f, .filled)⟩

def readSize : Node → Read Nat := Node.readNatural "usize" maxWord

def ServerSettings.read : Node → Read ServerSettings :=
  Node.readRecord (fun key v s => do
    match key with
    | "host" => return { s with host := ← v.readText }
    | "port" => return { s with port := ← v.readNatural "u16" maxPort }
    | "static_dir" => return { s with staticDir := ← v.readText }
    | "body_limit_mb" => return { s with bodyLimit := ← readSize v }
    | _ => return { s with uploadLimit := ← readSize v })
    (openShape "ServerConfig" ["host", "port", "static_dir", "body_limit_mb", "upload_limit_mb"])
    {}

def StorageSettings.read (usual : StorageSettings) : Node → Read StorageSettings :=
  Node.readRecord (fun key v s => do
    match key with
    | "work_dir" => return { s with workDir := ← v.readText }
    | "output_dir" => return { s with outputDir := ← v.readOption Node.readText }
    | _ => return { s with uploadDir := ← v.readText })
    (openShape "StorageConfig" ["work_dir", "output_dir", "upload_dir"]) usual

def RenderSettings.read : Node → Read RenderSettings :=
  Node.readRecord (fun _ v s => do return { s with maxDepth := ← readSize v })
    (openShape "RenderConfig" ["max_depth"]) {}

def KeystoreSettings.read : Node → Read KeystoreSettings :=
  Node.readRecord (fun key v s => do
    match key with
    | "alias" => return { s with keyAlias := ← v.readText }
    | "key_alg" => return { s with algorithm := ← v.readText }
    | "key_size" => return { s with keySize := ← v.readNatural "u32" maxHalfWord }
    | "validity_days" => return { s with validityDays := ← v.readNatural "u32" maxHalfWord }
    | "dname" => return { s with distinguishedName := ← v.readText }
    | _ => return { s with password := ← v.readText })
    (openShape "KeystoreConfig"
      ["alias", "key_alg", "key_size", "validity_days", "dname", "default_password"]) {}

def LoggingSettings.read : Node → Read LoggingSettings :=
  Node.readRecord (fun key v s => do
    match key with
    | "level" => return { s with level := ← v.readText }
    | _ => return { s with directory := ← v.readOption Node.readText })
    (openShape "LoggingConfig" ["level", "log_dir"]) {}

def Settings.read (usual : Settings) : Node → Read Settings :=
  Node.readRecord (fun key v s => do
    match key with
    | "server" => return { s with server := ← ServerSettings.read v }
    | "storage" => return { s with storage := ← StorageSettings.read usual.storage v }
    | "render" => return { s with render := ← RenderSettings.read v }
    | "keystore" => return { s with keystore := ← KeystoreSettings.read v }
    | _ => return { s with logging := ← LoggingSettings.read v })
    (openShape "ConfigSchema" ["server", "storage", "render", "keystore", "logging"]) usual

def ServerSettings.toJson (s : ServerSettings) : Json :=
  .ofMembers [("host", .text s.host), ("port", .nat s.port), ("static_dir", .text s.staticDir),
    ("body_limit_mb", .nat s.bodyLimit), ("upload_limit_mb", .nat s.uploadLimit)]

def StorageSettings.toJson (s : StorageSettings) : Json :=
  .ofMembers [("work_dir", .text s.workDir), ("output_dir", Json.text? s.outputDir),
    ("upload_dir", .text s.uploadDir)]

def RenderSettings.toJson (s : RenderSettings) : Json := .ofMembers [("max_depth", .nat s.maxDepth)]

def KeystoreSettings.toJson (s : KeystoreSettings) : Json :=
  .ofMembers [("alias", .text s.keyAlias), ("key_alg", .text s.algorithm),
    ("key_size", .nat s.keySize), ("validity_days", .nat s.validityDays),
    ("dname", .text s.distinguishedName), ("default_password", .text s.password)]

def LoggingSettings.toJson (s : LoggingSettings) : Json :=
  .ofMembers [("level", .text s.level), ("log_dir", Json.text? s.directory)]

def Settings.toJson (s : Settings) : Json :=
  .ofMembers [("server", s.server.toJson), ("storage", s.storage.toJson),
    ("render", s.render.toJson), ("keystore", s.keystore.toJson), ("logging", s.logging.toJson)]

end AppScaffold.Config
