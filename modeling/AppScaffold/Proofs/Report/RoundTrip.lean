import AppScaffold.Check.Findings
import AppScaffold.Config.Settings
import AppScaffold.Health.Report
import AppScaffold.Proofs.Json.Record

/-!
# Reports and settings as documents

What a reader makes of the document that was written of a value. A record is read back field by
field: at any time it is a mixture of the record that was written and the one the reader starts
from, and a field that was not written has to be the same in both.
-/

set_option autoImplicit false

namespace AppScaffold

namespace Json

open Function (update)

/-! ## Readers of what a writer writes -/

/-- What is written of a valid value is read as this value, and only valid values are read. -/
structure Faithful {α : Type} (valid : α → Prop) (read : Node → Read α) (write : α → Json) :
    Prop where
  back : ∀ a, valid a → read (.ofJson (write a)) = .ok a
  valid : ∀ n a, read n = .ok a → valid a

/-- A value is what is read of its document, any valid one and any that was read. -/
def RoundTrips {α : Type} (valid : α → Prop) (read : Node → Read α) (write : α → Json) : Prop :=
  (∀ a, valid a → read (.ofJson (write a)) = .ok a) ∧
    ∀ n a, read n = .ok a → read (.ofJson (write a)) = .ok a

section

variable {α : Type} {valid : α → Prop} {read : Node → Read α} {write : α → Json}

theorem readNatural_nat {type : String} {bound n : Nat} (h : n ≤ bound) :
    Node.readNatural type bound (.ofJson (.nat n)) = .ok n :=
  if_pos h

theorem le_of_readNatural {type : String} {bound n : Nat} {m : Node}
    (h : Node.readNatural type bound m = .ok n) : n ≤ bound := by
  unfold Node.readNatural at h
  split at h
  · split at h
    · rename_i hle
      cases h
      exact hle
    · cases h
  · cases h
  · cases h

theorem readVariant_text {known : List (String × α)} {s : String} {a : α}
    (h : known.lookup s = some a) : Node.readVariant known (.ofJson (.text s)) = .ok a := by
  rw [Node.ofJson, Node.readVariant, readName, h]

theorem readOption_text? (s : Option String) :
    Node.readOption Node.readText (.ofJson (text? s)) = .ok s := by
  cases s <;> rfl

theorem Faithful.roundTrips (h : Faithful valid read write) : RoundTrips valid read write := by
  constructor
  · exact h.back
  · intro n a ha
    exact h.back a (h.valid n a ha)

theorem faithful_text : Faithful (fun _ => True) Node.readText .text where
  back _ _ := rfl
  valid _ _ _ := trivial

theorem Faithful.list (h : Faithful valid read write) :
    Faithful (fun as => ∀ a ∈ as, valid a) (Node.readList read) (fun as => .array (as.map write)) where
  back := by
    intro as has
    rw [Node.readList_ofJson_eq_ok_iff, List.forall₂_map_left_iff, List.forall₂_same]
    exact fun a ha => h.back a (has a ha)
  valid := by
    intro n as has a ha
    obtain ⟨m, -, hm⟩ := Node.exists_of_mem_readList has ha
    exact h.valid m a hm

theorem Faithful.map (h : Faithful (fun _ => True) read write) :
    Faithful Keyed.Ordered (Node.readMap read)
      (fun es => .ofMembers (es.map fun e => (e.1, write e.2))) where
  back := by
    intro es hes
    have hwritten : Keyed.Ordered (es.map fun e => (e.1, write e.2)) := by
      rw [Keyed.Ordered, List.pairwise_map]
      exact hes
    rw [ofMembers, Keyed.ofList_of_ordered hwritten]
    change (Members.ofJson _).readMap read [] = .ok es
    rw [Members.readMap_eq_ok_iff, Members.entries_ofJson]
    refine ⟨Members.whole_ofJson _, es, ?_, (Keyed.ofList_of_ordered hes).symm⟩
    rw [List.forall₂_map_left_iff, List.forall₂_map_left_iff, List.forall₂_same]
    exact fun e _ => ⟨rfl, h.back e.2 trivial⟩
  valid := by
    intro n es h
    cases n with
    | object limit start members =>
      obtain ⟨_, _, hmembers⟩ := bind_eq_ok_iff.mp h
      obtain ⟨_, as, _, rfl⟩ := (Members.readMap_eq_ok_iff members).mp hmembers
      exact Keyed.ordered_ofList as
    | _ => cases h

end

/-! ## Records -/

section

variable {fields : List (String × Option Json)}

/-- The members that are written of fields some of which are left out. -/
def said (fields : List (String × Option Json)) : List (String × Json) :=
  fields.filterMap fun e => e.2.map fun v => (e.1, v)

def leftOut (fields : List (String × Option Json)) : List String :=
  (fields.filter fun e => e.2.isNone).map (·.1)

theorem mem_said {e : String × Json} : e ∈ said fields ↔ (e.1, some e.2) ∈ fields := by
  rw [said, List.mem_filterMap]
  constructor
  · rintro ⟨⟨key, w⟩, hmem, hsome⟩
    obtain ⟨v, rfl, rfl⟩ := Option.map_eq_some_iff.mp hsome
    exact hmem
  · intro hmem
    exact ⟨_, hmem, rfl⟩

theorem mem_leftOut {key : String} : key ∈ leftOut fields ↔ (key, none) ∈ fields := by
  simp [leftOut]

theorem mem_said_or_leftOut {key : String} (h : key ∈ fields.map (·.1)) :
    key ∈ (said fields).map (·.1) ∨ key ∈ leftOut fields := by
  obtain ⟨⟨key, _ | v⟩, he, rfl⟩ := List.mem_map.mp h
  · exact Or.inr (mem_leftOut.mpr he)
  · exact Or.inl (List.mem_map.mpr ⟨(key, v), mem_said.mpr he, rfl⟩)

theorem keys_said_sublist : ((said fields).map (·.1)).Sublist (fields.map (·.1)) := by
  induction fields with
  | nil => exact .slnil
  | cons e fields ih =>
    obtain ⟨key, _ | v⟩ := e
    · exact ih.cons key
    · exact ih.cons_cons key

theorem leftOut_sublist : (leftOut fields).Sublist (fields.map (·.1)) :=
  List.filter_sublist.map _

end

/-- How a record is put together from the fields of records, one for each key, and how it is
written. A field that has to be there is written always. -/
structure RecordForm (shape : Shape) (σ : Type) where
  mix : (String → σ) → σ
  mix_eq : ∀ {f : String → σ} {a : σ}, (∀ key ∈ shape.fields.map (·.1), f key = a) → mix f = a
  fields : σ → List (String × Option Json)
  keys_eq : ∀ a, (fields a).map (·.1) = shape.fields.map (·.1)
  complete : ∀ a, ∀ e ∈ fields a, e.2 = none → (e.1, .refused) ∉ shape.fields

namespace RecordForm

variable {σ : Type} {shape : Shape} (m : RecordForm shape σ) {read : String → Node → σ → Read σ}
  {empty a : σ}

/-- What is written of a field is read as this field of the record. A field that is left out is
the one of the empty record. -/
def Says (read : String → Node → σ → Read σ) (empty a : σ) (key : String) : Option Json → Prop
  | some v => ∀ f, read key (.ofJson v) (m.mix f) = .ok (m.mix (update f key a))
  | none => ∀ f, m.mix (update f key a) = m.mix (update f key empty)

theorem readAll_eq {es : List (String × Json)}
    (h : ∀ e ∈ es, m.Says read empty a e.1 (some e.2)) (f : String → σ) :
    readAll read (m.mix f) (es.map fun e => (e.1, Node.ofJson e.2)) =
      .ok (m.mix fun key => if key ∈ es.map (·.1) then a else f key) := by
  induction es generalizing f with
  | nil => rfl
  | cons e es ih =>
    obtain ⟨hhead, htail⟩ := List.forall_mem_cons.mp h
    rw [List.map_cons, readAll_cons_eq_ok_iff]
    refine ⟨_, hhead f, ?_⟩
    rw [ih htail]
    congr 3
    funext key
    rw [Function.update_apply, List.map_cons]
    by_cases hkey : key = e.1
    · simp only [hkey, List.mem_cons_self, ↓reduceIte, ite_self]
    · simp only [hkey, List.mem_cons, false_or, ↓reduceIte]

theorem mix_left_out {keys : List String} (hnodup : keys.Nodup)
    (h : ∀ key ∈ keys, ∀ f, m.mix (update f key a) = m.mix (update f key empty)) {f : String → σ}
    (hf : ∀ key ∈ keys, f key = empty) :
    m.mix (fun key => if key ∈ keys then a else f key) = m.mix f := by
  induction keys generalizing f with
  | nil => simp
  | cons k keys ih =>
    obtain ⟨hnew, hnodup⟩ := List.nodup_cons.mp hnodup
    obtain ⟨hhead, htail⟩ := List.forall_mem_cons.mp h
    obtain ⟨hk, hrest⟩ := List.forall_mem_cons.mp hf
    have hsame : update f k empty = f := by rw [← hk, Function.update_eq_self]
    have hkeys : ∀ key ∈ keys, update f k a key = empty := by
      intro key hkey
      rw [Function.update_of_ne (ne_of_mem_of_not_mem hkey hnew)]
      exact hrest key hkey
    rw [← hsame, ← hhead f, ← ih hnodup htail hkeys, hsame]
    congr 1
    funext key
    rw [Function.update_apply]
    by_cases hkey : key = k <;> simp [hkey, hnew]

def write (a : σ) : Json := .ofMembers (said (m.fields a))

theorem readRecord_write (hnodup : (shape.fields.map (·.1)).Nodup)
    (hform : ∀ e ∈ m.fields a, m.Says read empty a e.1 e.2) :
    Node.readRecord read shape empty (.ofJson (m.write a)) = .ok a := by
  have hfields := m.keys_eq a
  rw [← hfields] at hnodup
  have hperm := Keyed.ofList_perm (keys_said_sublist.nodup hnodup)
  have hkeys := hperm.map (·.1)
  have hsaid : ∀ e ∈ Keyed.ofList (said (m.fields a)), m.Says read empty a e.1 (some e.2) :=
    fun e he => hform _ (mem_said.mp (hperm.subset he))
  -- the fields that were left out are taken from the record first
  have hstart : m.mix (fun key => if key ∈ leftOut (m.fields a) then a else empty) = empty := by
    rw [m.mix_left_out (leftOut_sublist.nodup hnodup) _ fun _ _ => rfl]
    · exact m.mix_eq fun _ _ => rfl
    · intro key hkey
      exact hform _ (mem_leftOut.mp hkey)
  rw [write, ofMembers, Node.readRecord_ofJson_object]
  · rw [← hstart, m.readAll_eq hsaid, Except.ok.injEq]
    apply m.mix_eq
    intro key hkey
    rw [← hfields] at hkey
    rcases mem_said_or_leftOut hkey with hmem | hleft
    · exact if_pos (hkeys.mem_iff.mpr hmem)
    · simp only [hleft, ↓reduceIte, ite_self]
  · exact hkeys.nodup_iff.mpr (keys_said_sublist.nodup hnodup)
  · intro e he
    rw [Shape.knows_iff, ← hfields]
    exact List.mem_map_of_mem (mem_said.mp (hperm.subset he))
  · intro f hf hmust
    have hkey : f.1 ∈ (m.fields a).map (·.1) := hfields ▸ List.mem_map_of_mem hf
    rcases mem_said_or_leftOut hkey with hmem | hleft
    · exact hkeys.mem_iff.mpr hmem
    · exact absurd (hmust ▸ hf) (m.complete a _ (mem_leftOut.mp hleft) rfl)

end RecordForm

end Json

/-! ## Error reports -/

namespace Report

open Json (Faithful Node RecordForm readVariant_text)

theorem Code.lookup_name (c : Code) : Code.names.lookup c.name = some c := by
  cases c <;> rfl

def Summary.form : RecordForm Summary.shape Summary where
  mix f := ⟨(f "code").code, (f "code_str").label, (f "category").category, (f "message").message,
    (f "context").context, (f "suggestion").suggestion, (f "source").source⟩
  mix_eq h := by simp [h, shape]
  fields s :=
    [("code", some (.text s.code.name)), ("code_str", some (.text s.label)),
      ("category", some (.text s.category)), ("message", some (.text s.message)),
      ("context", s.context.map .text), ("suggestion", s.suggestion.map .text),
      ("source", s.source.map .text)]
  keys_eq _ := rfl
  complete s := by simp [shape]

theorem Summary.toJson_eq (s : Summary) : s.toJson = form.write s := by
  rcases s with ⟨code, label, category, message, _ | context, _ | suggestion, _ | source⟩ <;> rfl

theorem Summary.faithful : Faithful (fun _ => True) Summary.read Summary.toJson where
  back := by
    intro s _
    rw [toJson_eq]
    apply form.readRecord_write (by decide)
    obtain ⟨code, label, category, message, context, suggestion, source⟩ := s
    simp only [form, List.forall_mem_cons]
    refine ⟨fun f => ?_, fun f => rfl, fun f => rfl, fun f => rfl, ?_, ?_, ?_, List.forall_mem_nil _⟩
    · exact bind_eq_ok_iff.mpr ⟨code, readVariant_text code.lookup_name, rfl⟩
    · cases context <;> exact fun f => rfl
    · cases suggestion <;> exact fun f => rfl
    · cases source <;> exact fun f => rfl
  valid _ _ _ := trivial

end Report

/-! ## Findings -/

namespace Check

open Json (Faithful Node RecordForm)

def Finding.form : RecordForm Finding.shape Finding where
  mix f := ⟨(f "field").field, (f "message").message, (f "code").code, (f "expected").expected,
    (f "actual").actual⟩
  mix_eq h := by simp [h, shape]
  fields f :=
    [("field", some (.text f.field)), ("message", some (.text f.message)),
      ("code", some (.text f.code)), ("expected", f.expected.map .text),
      ("actual", f.actual.map .text)]
  keys_eq _ := rfl
  complete f := by simp [shape]

theorem Finding.toJson_eq (f : Finding) : f.toJson = form.write f := by
  rcases f with ⟨field, message, code, _ | expected, _ | actual⟩ <;> rfl

theorem Finding.faithful : Faithful (fun _ => True) Finding.read Finding.toJson where
  back := by
    intro finding _
    rw [toJson_eq]
    apply form.readRecord_write (by decide)
    obtain ⟨field, message, code, expected, actual⟩ := finding
    simp only [form, List.forall_mem_cons]
    refine ⟨fun f => rfl, fun f => rfl, fun f => rfl, ?_, ?_, List.forall_mem_nil _⟩
    · cases expected <;> exact fun f => rfl
    · cases actual <;> exact fun f => rfl
  valid _ _ _ := trivial

def Findings.form : RecordForm Findings.shape Findings where
  mix f := ⟨(f "errors").errors, (f "warnings").warnings⟩
  mix_eq h := by simp [h, shape]
  fields f :=
    [("errors", some (.array (f.errors.map Finding.toJson))),
      ("warnings", some (.array (f.warnings.map Finding.toJson)))]
  keys_eq _ := rfl
  complete f := by simp

theorem Findings.faithful : Faithful (fun _ => True) Findings.read Findings.toJson where
  back := by
    intro findings _
    have hlist (fs : List Finding) := Finding.faithful.list.back fs fun _ _ => trivial
    apply form.readRecord_write (by decide)
    simp only [form, List.forall_mem_cons]
    refine ⟨fun f => ?_, fun f => ?_, List.forall_mem_nil _⟩
    · exact bind_eq_ok_iff.mpr ⟨findings.errors, hlist _, rfl⟩
    · exact bind_eq_ok_iff.mpr ⟨findings.warnings, hlist _, rfl⟩
  valid _ _ _ := trivial

end Check

/-! ## Health reports -/

namespace Health

open Json (Faithful Node RecordForm le_of_readNatural readNatural_nat readVariant_text)

theorem Status.lookup_name (s : Status) : Status.names.lookup s.name = some s := by
  cases s <;> rfl

structure CheckResult.Valid (c : CheckResult) : Prop where
  milliseconds : c.milliseconds ≤ Node.maxWord
  details : Keyed.Ordered c.details

theorem CheckResult.valid_default : (default : CheckResult).Valid :=
  ⟨Nat.zero_le _, List.Pairwise.nil⟩

def CheckResult.form : RecordForm CheckResult.shape CheckResult where
  mix f := ⟨(f "name").name, (f "status").status, (f "message").message,
    (f "duration_ms").milliseconds, (f "details").details⟩
  mix_eq h := by simp [h, shape]
  fields c :=
    [("name", some (.text c.name)), ("status", some (.text c.status.name)),
      ("message", some (Json.text? c.message)), ("duration_ms", some (.nat c.milliseconds)),
      ("details", some (.ofMembers (c.details.map fun d => (d.1, .text d.2))))]
  keys_eq _ := rfl
  complete c := by simp

theorem CheckResult.faithful : Faithful CheckResult.Valid CheckResult.read CheckResult.toJson where
  back := by
    intro c hc
    apply form.readRecord_write (by decide)
    simp only [form, List.forall_mem_cons]
    refine ⟨fun f => rfl, fun f => ?_, fun f => ?_, fun f => ?_, fun f => ?_, List.forall_mem_nil _⟩
    · exact bind_eq_ok_iff.mpr ⟨c.status, readVariant_text c.status.lookup_name, rfl⟩
    · exact bind_eq_ok_iff.mpr ⟨c.message, Json.readOption_text? c.message, rfl⟩
    · exact bind_eq_ok_iff.mpr ⟨c.milliseconds, readNatural_nat hc.milliseconds, rfl⟩
    · exact bind_eq_ok_iff.mpr ⟨c.details, Json.faithful_text.map.back _ hc.details, rfl⟩
  valid := by
    intro n c h
    refine Node.kept_by_readRecord (I := Valid) (fun key m acc c hacc h => ?_) valid_default h
    split at h
    all_goals
      obtain ⟨x, hx, h⟩ := bind_eq_ok_iff.mp h
      cases h
    · exact ⟨hacc.milliseconds, hacc.details⟩
    · exact ⟨hacc.milliseconds, hacc.details⟩
    · exact ⟨hacc.milliseconds, hacc.details⟩
    · exact ⟨le_of_readNatural hx, hacc.details⟩
    · exact ⟨hacc.milliseconds, Json.faithful_text.map.valid m x hx⟩

structure Report.Valid (r : Report) : Prop where
  checks : ∀ c ∈ r.checks, c.Valid
  milliseconds : r.milliseconds ≤ Node.maxWord

theorem Report.valid_default : (default : Report).Valid :=
  ⟨List.forall_mem_nil _, Nat.zero_le _⟩

def Report.form : RecordForm Report.shape Report where
  mix f := ⟨(f "status").status, (f "checks").checks, (f "total_duration_ms").milliseconds,
    (f "timestamp").timestamp, (f "version").version⟩
  mix_eq h := by simp [h, shape]
  fields r :=
    [("status", some (.text r.status.name)),
      ("checks", some (.array (r.checks.map CheckResult.toJson))),
      ("total_duration_ms", some (.nat r.milliseconds)), ("timestamp", some (.text r.timestamp)),
      ("version", some (.text r.version))]
  keys_eq _ := rfl
  complete r := by simp

theorem Report.faithful : Faithful Report.Valid Report.read Report.toJson where
  back := by
    intro r hr
    apply form.readRecord_write (by decide)
    simp only [form, List.forall_mem_cons]
    refine ⟨fun f => ?_, fun f => ?_, fun f => ?_, fun f => rfl, fun f => rfl,
      List.forall_mem_nil _⟩
    · exact bind_eq_ok_iff.mpr ⟨r.status, readVariant_text r.status.lookup_name, rfl⟩
    · exact bind_eq_ok_iff.mpr ⟨r.checks, CheckResult.faithful.list.back _ hr.checks, rfl⟩
    · exact bind_eq_ok_iff.mpr ⟨r.milliseconds, readNatural_nat hr.milliseconds, rfl⟩
  valid := by
    intro n r h
    refine Node.kept_by_readRecord (I := Valid) (fun key m acc r hacc h => ?_) valid_default h
    split at h
    all_goals
      obtain ⟨x, hx, h⟩ := bind_eq_ok_iff.mp h
      cases h
    · exact ⟨hacc.checks, hacc.milliseconds⟩
    · exact ⟨CheckResult.faithful.list.valid m x hx, hacc.milliseconds⟩
    · exact ⟨hacc.checks, le_of_readNatural hx⟩
    · exact ⟨hacc.checks, hacc.milliseconds⟩
    · exact ⟨hacc.checks, hacc.milliseconds⟩

end Health

/-! ## Settings -/

namespace Config

open Json (Faithful Node RecordForm le_of_readNatural readNatural_nat)

structure ServerSettings.Valid (s : ServerSettings) : Prop where
  port : s.port ≤ maxPort
  body : s.bodyLimit ≤ maxWord
  upload : s.uploadLimit ≤ maxWord

theorem ServerSettings.valid_usual : ServerSettings.Valid {} :=
  ⟨by decide, by decide, by decide⟩

structure KeystoreSettings.Valid (s : KeystoreSettings) : Prop where
  size : s.keySize ≤ maxHalfWord
  days : s.validityDays ≤ maxHalfWord

theorem KeystoreSettings.valid_usual : KeystoreSettings.Valid {} := ⟨by decide, by decide⟩

structure Settings.Valid (s : Settings) : Prop where
  server : s.server.Valid
  depth : s.render.maxDepth ≤ maxWord
  keystore : s.keystore.Valid

def ServerSettings.form : RecordForm (openShape "ServerConfig"
    ["host", "port", "static_dir", "body_limit_mb", "upload_limit_mb"]) ServerSettings where
  mix f := ⟨(f "host").host, (f "port").port, (f "static_dir").staticDir,
    (f "body_limit_mb").bodyLimit, (f "upload_limit_mb").uploadLimit⟩
  mix_eq h := by simp [h, openShape]
  fields s :=
    [("host", some (.text s.host)), ("port", some (.nat s.port)),
      ("static_dir", some (.text s.staticDir)), ("body_limit_mb", some (.nat s.bodyLimit)),
      ("upload_limit_mb", some (.nat s.uploadLimit))]
  keys_eq _ := rfl
  complete s := by simp

theorem ServerSettings.faithful :
    Faithful ServerSettings.Valid ServerSettings.read ServerSettings.toJson where
  back := by
    intro s hs
    apply form.readRecord_write (by decide)
    simp only [form, List.forall_mem_cons]
    refine ⟨fun f => rfl, fun f => ?_, fun f => rfl, fun f => ?_, fun f => ?_,
      List.forall_mem_nil _⟩
    · exact bind_eq_ok_iff.mpr ⟨s.port, readNatural_nat hs.port, rfl⟩
    · exact bind_eq_ok_iff.mpr ⟨s.bodyLimit, readNatural_nat hs.body, rfl⟩
    · exact bind_eq_ok_iff.mpr ⟨s.uploadLimit, readNatural_nat hs.upload, rfl⟩
  valid := by
    intro n s h
    refine Node.kept_by_readRecord (I := Valid) (fun key m acc s hacc h => ?_) valid_usual h
    split at h
    all_goals
      obtain ⟨x, hx, h⟩ := bind_eq_ok_iff.mp h
      cases h
    · exact ⟨hacc.port, hacc.body, hacc.upload⟩
    · exact ⟨le_of_readNatural hx, hacc.body, hacc.upload⟩
    · exact ⟨hacc.port, hacc.body, hacc.upload⟩
    · exact ⟨hacc.port, le_of_readNatural hx, hacc.upload⟩
    · exact ⟨hacc.port, hacc.body, le_of_readNatural hx⟩

def StorageSettings.form : RecordForm (openShape "StorageConfig"
    ["work_dir", "output_dir", "upload_dir"]) StorageSettings where
  mix f := ⟨(f "work_dir").workDir, (f "output_dir").outputDir, (f "upload_dir").uploadDir⟩
  mix_eq h := by simp [h, openShape]
  fields s :=
    [("work_dir", some (.text s.workDir)), ("output_dir", some (Json.text? s.outputDir)),
      ("upload_dir", some (.text s.uploadDir))]
  keys_eq _ := rfl
  complete s := by simp

theorem StorageSettings.faithful (usual : StorageSettings) :
    Faithful (fun _ => True) (StorageSettings.read usual) StorageSettings.toJson where
  back := by
    intro s _
    apply form.readRecord_write (by decide)
    simp only [form, List.forall_mem_cons]
    refine ⟨fun f => rfl, fun f => ?_, fun f => rfl, List.forall_mem_nil _⟩
    exact bind_eq_ok_iff.mpr ⟨s.outputDir, Json.readOption_text? s.outputDir, rfl⟩
  valid _ _ _ := trivial

def RenderSettings.form :
    RecordForm (openShape "RenderConfig" ["max_depth"]) RenderSettings where
  mix f := ⟨(f "max_depth").maxDepth⟩
  mix_eq h := by simp [h, openShape]
  fields s := [("max_depth", some (.nat s.maxDepth))]
  keys_eq _ := rfl
  complete s := by simp

theorem RenderSettings.faithful :
    Faithful (fun s => s.maxDepth ≤ maxWord) RenderSettings.read RenderSettings.toJson where
  back := by
    intro s hs
    apply form.readRecord_write (by decide)
    simp only [form, List.forall_mem_cons]
    refine ⟨fun f => ?_, List.forall_mem_nil _⟩
    exact bind_eq_ok_iff.mpr ⟨s.maxDepth, readNatural_nat hs, rfl⟩
  valid := by
    intro n s h
    refine Node.kept_by_readRecord (I := fun s => s.maxDepth ≤ maxWord)
      (fun key m acc s hacc h => ?_) (by decide) h
    obtain ⟨x, hx, h⟩ := bind_eq_ok_iff.mp h
    cases h
    exact le_of_readNatural hx

def KeystoreSettings.form : RecordForm (openShape "KeystoreConfig"
    ["alias", "key_alg", "key_size", "validity_days", "dname", "default_password"])
    KeystoreSettings where
  mix f := ⟨(f "alias").keyAlias, (f "key_alg").algorithm, (f "key_size").keySize,
    (f "validity_days").validityDays, (f "dname").distinguishedName,
    (f "default_password").password⟩
  mix_eq h := by simp [h, openShape]
  fields s :=
    [("alias", some (.text s.keyAlias)), ("key_alg", some (.text s.algorithm)),
      ("key_size", some (.nat s.keySize)), ("validity_days", some (.nat s.validityDays)),
      ("dname", some (.text s.distinguishedName)), ("default_password", some (.text s.password))]
  keys_eq _ := rfl
  complete s := by simp

theorem KeystoreSettings.faithful :
    Faithful KeystoreSettings.Valid KeystoreSettings.read KeystoreSettings.toJson where
  back := by
    intro s hs
    apply form.readRecord_write (by decide)
    simp only [form, List.forall_mem_cons]
    refine ⟨fun f => rfl, fun f => rfl, fun f => ?_, fun f => ?_, fun f => rfl, fun f => rfl,
      List.forall_mem_nil _⟩
    · exact bind_eq_ok_iff.mpr ⟨s.keySize, readNatural_nat hs.size, rfl⟩
    · exact bind_eq_ok_iff.mpr ⟨s.validityDays, readNatural_nat hs.days, rfl⟩
  valid := by
    intro n s h
    refine Node.kept_by_readRecord (I := Valid) (fun key m acc s hacc h => ?_) valid_usual h
    split at h
    all_goals
      obtain ⟨x, hx, h⟩ := bind_eq_ok_iff.mp h
      cases h
    · exact ⟨hacc.size, hacc.days⟩
    · exact ⟨hacc.size, hacc.days⟩
    · exact ⟨le_of_readNatural hx, hacc.days⟩
    · exact ⟨hacc.size, le_of_readNatural hx⟩
    · exact ⟨hacc.size, hacc.days⟩
    · exact ⟨hacc.size, hacc.days⟩

def LoggingSettings.form :
    RecordForm (openShape "LoggingConfig" ["level", "log_dir"]) LoggingSettings where
  mix f := ⟨(f "level").level, (f "log_dir").directory⟩
  mix_eq h := by simp [h, openShape]
  fields s := [("level", some (.text s.level)), ("log_dir", some (Json.text? s.directory))]
  keys_eq _ := rfl
  complete s := by simp

theorem LoggingSettings.faithful :
    Faithful (fun _ => True) LoggingSettings.read LoggingSettings.toJson where
  back := by
    intro s _
    apply form.readRecord_write (by decide)
    simp only [form, List.forall_mem_cons]
    refine ⟨fun f => rfl, fun f => ?_, List.forall_mem_nil _⟩
    exact bind_eq_ok_iff.mpr ⟨s.directory, Json.readOption_text? s.directory, rfl⟩
  valid _ _ _ := trivial

def Settings.form : RecordForm (openShape "ConfigSchema"
    ["server", "storage", "render", "keystore", "logging"]) Settings where
  mix f := ⟨(f "server").server, (f "storage").storage, (f "render").render,
    (f "keystore").keystore, (f "logging").logging⟩
  mix_eq h := by simp [h, openShape]
  fields s :=
    [("server", some s.server.toJson), ("storage", some s.storage.toJson),
      ("render", some s.render.toJson), ("keystore", some s.keystore.toJson),
      ("logging", some s.logging.toJson)]
  keys_eq _ := rfl
  complete s := by simp

theorem Settings.faithful {usual : Settings} (husual : usual.Valid) :
    Faithful Settings.Valid (Settings.read usual) Settings.toJson where
  back := by
    intro s hs
    apply form.readRecord_write (by decide)
    simp only [form, List.forall_mem_cons]
    refine ⟨fun f => ?_, fun f => ?_, fun f => ?_, fun f => ?_, fun f => ?_, List.forall_mem_nil _⟩
    · exact bind_eq_ok_iff.mpr ⟨s.server, ServerSettings.faithful.back _ hs.server, rfl⟩
    · exact bind_eq_ok_iff.mpr
        ⟨s.storage, (StorageSettings.faithful usual.storage).back _ trivial, rfl⟩
    · exact bind_eq_ok_iff.mpr ⟨s.render, RenderSettings.faithful.back _ hs.depth, rfl⟩
    · exact bind_eq_ok_iff.mpr ⟨s.keystore, KeystoreSettings.faithful.back _ hs.keystore, rfl⟩
    · exact bind_eq_ok_iff.mpr ⟨s.logging, LoggingSettings.faithful.back _ trivial, rfl⟩
  valid := by
    intro n s h
    refine Node.kept_by_readRecord (I := Valid) (fun key m acc s hacc h => ?_) husual h
    split at h
    all_goals
      obtain ⟨x, hx, h⟩ := bind_eq_ok_iff.mp h
      cases h
    · exact ⟨ServerSettings.faithful.valid m x hx, hacc.depth, hacc.keystore⟩
    · exact ⟨hacc.server, hacc.depth, hacc.keystore⟩
    · exact ⟨hacc.server, RenderSettings.faithful.valid m x hx, hacc.keystore⟩
    · exact ⟨hacc.server, hacc.depth, KeystoreSettings.faithful.valid m x hx⟩
    · exact ⟨hacc.server, hacc.depth, hacc.keystore⟩

theorem Settings.valid_usual (env : Host.Environment) : (Settings.usual env).Valid :=
  ⟨ServerSettings.valid_usual, show 32 ≤ maxWord by decide, KeystoreSettings.valid_usual⟩

end Config

namespace Report

open Json (Node RoundTrips)

/-- Reports and settings, any of them and those of any document, are what is read of the documents
that are written of them. -/
theorem reports_and_settings_round_trip (env : Host.Environment) :
    RoundTrips (fun _ => True) Summary.read Summary.toJson ∧
      RoundTrips (fun _ => True) Check.Findings.read Check.Findings.toJson ∧
      RoundTrips Health.CheckResult.Valid Health.CheckResult.read Health.CheckResult.toJson ∧
      RoundTrips Health.Report.Valid Health.Report.read Health.Report.toJson ∧
      RoundTrips Config.Settings.Valid (Config.Settings.read (.usual env))
        Config.Settings.toJson := by
  refine ⟨?_, ?_, ?_, ?_, ?_⟩
  · exact Summary.faithful.roundTrips
  · exact Check.Findings.faithful.roundTrips
  · exact Health.CheckResult.faithful.roundTrips
  · exact Health.Report.faithful.roundTrips
  · exact (Config.Settings.faithful (Config.Settings.valid_usual env)).roundTrips

def diskReport : Health.Report :=
  { status := .degraded
    checks := [
      { name := "disk", status := .degraded, message := some "little space left",
        milliseconds := 18446744073709551615, details := [("free", "3 MB"), ("path", "/tmp")] },
      { name := "java", status := .healthy }]
    milliseconds := 12
    timestamp := "2024-01-01T00:00:00Z"
    version := "0.3.0" }

theorem diskReport_round_trips :
    Health.Report.read (.ofJson diskReport.toJson) = .ok diskReport := by
  obtain ⟨-, -, -, ⟨hback, -⟩, -⟩ := reports_and_settings_round_trip default
  apply hback
  constructor
  · simp only [diskReport, List.forall_mem_cons]
    refine ⟨⟨by decide, List.pairwise_pair.mpr (by decide)⟩, ⟨by decide, List.Pairwise.nil⟩, ?_⟩
    exact List.forall_mem_nil _
  · decide

end Report

end AppScaffold
