import DisplayEnv.Config.Schema
import DisplayEnv.Proofs.Config.RoundTrip
import DisplayEnv.Proofs.Json.Records

/-!
# Configurations with fields left out

A configuration may be written without some of its fields, on every level: the filter or the
settings of the backend, any of those settings, and the work area and the flag of any monitor. What
is read is the configuration with the standard value in each gap (`filled`) and nothing else
changed. The standard values are those of the standard configuration; the readers have their own,
and that these are the same is part of what is proved here.

* `DisplayConfig.Text`: the texts of a configuration with gaps, records of records in either form.
* `DisplayConfig.reads_text`: what is read of them.
-/

namespace DisplayEnv

open Json

/-! ## Gaps -/

/-- Which fields of a monitor are left out. -/
structure MonitorGaps where
  workArea : Bool
  primary : Bool
  deriving DecidableEq, Repr

/-- Which settings of the headless backend are left out, and what is left out of each monitor. -/
structure HeadlessGaps where
  monitors : Bool
  dpi : Bool
  idleWaitMs : Bool
  within : Nat → MonitorGaps

/-- Which fields of a configuration are left out, and what is left out within the settings. -/
structure Gaps where
  logFilter : Bool
  headless : Bool
  within : HeadlessGaps

/-- All settings are left out. -/
def HeadlessGaps.all : HeadlessGaps := ⟨true, true, true, fun _ => ⟨true, true⟩⟩

/-- Everything is left out. -/
def Gaps.all : Gaps := ⟨true, true, .all⟩

/-- The monitor with the standard values in the gaps. -/
def MonitorConfig.filled (m : MonitorConfig) (gaps : MonitorGaps) : MonitorConfig where
  bounds := m.bounds
  workArea := if gaps.workArea then none else m.workArea
  primary := if gaps.primary then false else m.primary

/-- The settings with the standard values in the gaps. -/
def HeadlessConfig.filled (c : HeadlessConfig) (gaps : HeadlessGaps) : HeadlessConfig where
  monitors := if gaps.monitors then standard.monitors
    else c.monitors.zipIdx.map fun (m, i) => m.filled (gaps.within i)
  dpi := if gaps.dpi then standard.dpi else c.dpi
  idleWaitMs := if gaps.idleWaitMs then standard.idleWaitMs else c.idleWaitMs

/-- **The configuration with the standard values in the gaps.** -/
def DisplayConfig.filled (c : DisplayConfig) (gaps : Gaps) : DisplayConfig where
  logFilter := if gaps.logFilter then standard.logFilter else c.logFilter
  headless := if gaps.headless then standard.headless else c.headless.filled gaps.within

/-! ## Texts -/

/-- A field of a record that is one written value. -/
def Json.Slot.written (name : String) (omitted : Bool) (v : Json) : Slot :=
  ⟨name, omitted, Spelled v⟩

namespace Rect

/-- The four numbers of a rectangle; none may be left out. -/
def slots (q : Rect) : List Slot :=
  [.written "x" false (.number q.x.toInt), .written "y" false (.number q.y.toInt),
    .written "width" false (.number q.width.toInt),
    .written "height" false (.number q.height.toInt)]

/-- The texts of a rectangle. -/
def Text (q : Rect) : List Char → Prop := RecordText q.slots

end Rect

namespace MonitorConfig

/-- The texts of a work area. -/
def AreaText : Option Rect → List Char → Prop
  | none => Spelled .null
  | some q => q.Text

def slots (m : MonitorConfig) (gaps : MonitorGaps) : List Slot :=
  [⟨"bounds", false, m.bounds.Text⟩, ⟨"work_area", gaps.workArea, AreaText m.workArea⟩,
    .written "primary" gaps.primary (.bool m.primary)]

/-- The texts of a monitor with gaps. -/
def Text (m : MonitorConfig) (gaps : MonitorGaps) : List Char → Prop := RecordText (m.slots gaps)

end MonitorConfig

namespace HeadlessConfig

/-- The texts of a list of monitors with gaps. -/
def MonitorsText (monitors : List MonitorConfig) (within : Nat → MonitorGaps) (a : List Char) :
    Prop :=
  ∃ items, Bracketed items a ∧
    List.Forall₂ (fun t (p : MonitorConfig × Nat) => p.1.Text (within p.2) t) items monitors.zipIdx

def slots (c : HeadlessConfig) (gaps : HeadlessGaps) : List Slot :=
  [⟨"monitors", gaps.monitors, MonitorsText c.monitors gaps.within⟩,
    .written "dpi" gaps.dpi (.number c.dpi.toNat),
    .written "idle_wait_ms" gaps.idleWaitMs (.number c.idleWaitMs.toNat)]

/-- The texts of the settings with gaps. -/
def Text (c : HeadlessConfig) (gaps : HeadlessGaps) : List Char → Prop := RecordText (c.slots gaps)

end HeadlessConfig

namespace DisplayConfig

/-- The texts of a filter between its quotes. -/
def FilterText (s : String) (a : List Char) : Prop := ∃ b, StringText s b ∧ a = quote b

def slots (c : DisplayConfig) (gaps : Gaps) : List Slot :=
  [⟨"log_filter", gaps.logFilter, FilterText c.logFilter⟩,
    ⟨"headless", gaps.headless, c.headless.Text gaps.within⟩]

/-- **The texts of a configuration with gaps.** -/
def Text (c : DisplayConfig) (gaps : Gaps) : List Char → Prop := RecordText (c.slots gaps)

end DisplayConfig

/-! ## Texts are values -/

variable {a : List Char}

theorem Rect.value_of_slot (q : Rect) : ∀ s ∈ q.slots, ∀ t, s.text t → Value t := by
  simp only [slots, List.forall_mem_cons]
  exact ⟨fun _ => Spelled.value _, fun _ => Spelled.value _, fun _ => Spelled.value _,
    fun _ => Spelled.value _, List.forall_mem_nil _⟩

theorem Rect.Text.value {q : Rect} (h : q.Text a) : Value a := RecordText.value q.value_of_slot h

theorem MonitorConfig.AreaText.value {area : Option Rect} (h : AreaText area a) : Value a := by
  cases area with
  | none => exact Spelled.value _ h
  | some q => exact Rect.Text.value h

theorem MonitorConfig.value_of_slot (m : MonitorConfig) (gaps : MonitorGaps) :
    ∀ s ∈ m.slots gaps, ∀ t, s.text t → Value t := by
  simp only [slots, List.forall_mem_cons]
  exact ⟨fun _ => Rect.Text.value, fun _ => AreaText.value, fun _ => Spelled.value _,
    List.forall_mem_nil _⟩

theorem MonitorConfig.Text.value {m : MonitorConfig} {gaps : MonitorGaps} (h : m.Text gaps a) :
    Value a := RecordText.value (m.value_of_slot gaps) h

/-- The items of an array that are texts of something are values. -/
theorem Json.values_of_forall₂ {β : Type} {text : β → List Char → Prop} {items : List (List Char)}
    {l : List β} (h : List.Forall₂ (fun t b => text b t) items l)
    (values : ∀ b t, text b t → Value t) : ∀ t ∈ items, Value t := by
  induction h with
  | nil => exact List.forall_mem_nil _
  | cons first _ ih => exact List.forall_mem_cons.mpr ⟨values _ _ first, ih⟩

theorem HeadlessConfig.MonitorsText.value {monitors : List MonitorConfig}
    {within : Nat → MonitorGaps} (h : MonitorsText monitors within a) : Value a := by
  obtain ⟨items, bracketed, texts⟩ := h
  exact .array bracketed (values_of_forall₂ texts fun _ _ => MonitorConfig.Text.value)

theorem HeadlessConfig.value_of_slot (c : HeadlessConfig) (gaps : HeadlessGaps) :
    ∀ s ∈ c.slots gaps, ∀ t, s.text t → Value t := by
  simp only [slots, List.forall_mem_cons]
  exact ⟨fun _ => MonitorsText.value, fun _ => Spelled.value _, fun _ => Spelled.value _,
    List.forall_mem_nil _⟩

theorem HeadlessConfig.Text.value {c : HeadlessConfig} {gaps : HeadlessGaps} (h : c.Text gaps a) :
    Value a := RecordText.value (c.value_of_slot gaps) h

theorem DisplayConfig.value_of_slot (c : DisplayConfig) (gaps : Gaps) :
    ∀ s ∈ c.slots gaps, ∀ t, s.text t → Value t := by
  simp only [slots, List.forall_mem_cons]
  refine ⟨?_, fun _ => HeadlessConfig.Text.value, List.forall_mem_nil _⟩
  rintro _ ⟨b, string, rfl⟩
  exact .string string.loose

/-! ## What is read -/

namespace Json

variable {P β : Type} {stage : (String → Bool) → P} {isSet : P → Bool}

/-- A field that puts what it read into the record is a slot's, if it reads the slot's texts as the
value that the stages have in its place. -/
theorem Slot.fits_of_reads {s : Slot} {read : Reader β} {put : β → P → P} {v : β}
    (reads : ∀ t, s.text t → Reads read t v) (set : ∀ seen, isSet (stage seen) = seen s.name)
    (puts : ∀ seen, put v (stage seen) = stage (Function.update seen s.name true)) :
    s.Fits stage ⟨s.name, isSet, fun d p => (read d).map fun v => put v p⟩ where
  name := rfl
  set := set
  read seen t d text drafts := by
    show Except.map _ (read d) = _
    rw [reads t text d drafts]
    exact congrArg Except.ok (puts seen)

end Json

/-- The value of a field, once its name was seen. -/
def seenValue {β : Type} (seen : Bool) (v : β) : Option β := if seen then some v else none

@[simp] theorem isSome_seenValue {β : Type} (seen : Bool) (v : β) :
    (seenValue seen v).isSome = seen := by
  cases seen <;> rfl

@[simp] theorem seenValue_true {β : Type} (v : β) : seenValue true v = some v := rfl

namespace Rect

/-- A rectangle under construction. -/
def stage (q : Rect) (seen : String → Bool) : Parts :=
  ⟨seenValue (seen "x") q.x, seenValue (seen "y") q.y, seenValue (seen "width") q.width,
    seenValue (seen "height") q.height⟩

theorem plan (q : Rect) : Plan record q.slots q.stage where
  distinct := by simp [slots, Slot.written]
  start := rfl
  fields := by
    refine .cons ?_ (.cons ?_ (.cons ?_ (.cons ?_ .nil))) <;>
      refine Slot.fits_of_reads (fun _ => readInt32_inverts.reads) (fun seen => ?_) fun seen => ?_
    all_goals simp [stage, Slot.written]

theorem reads_text (q : Rect) {a : List Char} (h : q.Text a) : Reads Rect.read a q :=
  q.plan.reads q.value_of_slot rfl h

end Rect

namespace MonitorConfig

theorem reads_area (area : Option Rect) {a : List Char} (h : AreaText area a) :
    Reads (readOption Rect.read) a area := by
  cases area with
  | none =>
    cases h
    exact reads_none
  | some q => exact (q.reads_text h).some nofun

/-- A monitor under construction. -/
def stage (m : MonitorConfig) (seen : String → Bool) : Parts :=
  ⟨seenValue (seen "bounds") m.bounds, seenValue (seen "work_area") m.workArea,
    seenValue (seen "primary") m.primary⟩

theorem plan (m : MonitorConfig) (gaps : MonitorGaps) : Plan record (m.slots gaps) m.stage where
  distinct := by simp [slots, Slot.written]
  start := rfl
  fields := by
    refine .cons ?_ (.cons ?_ (.cons ?_ .nil))
    · exact Slot.fits_of_reads (fun _ => m.bounds.reads_text) (by simp [stage]) (by simp [stage])
    · exact Slot.fits_of_reads (fun _ => reads_area m.workArea) (by simp [stage]) (by simp [stage])
    · exact Slot.fits_of_reads (fun _ => readBool_inverts.reads) (by simp [stage, Slot.written])
        (by simp [stage, Slot.written])

theorem finish_stage (m : MonitorConfig) (gaps : MonitorGaps) :
    record.finish (m.stage fun k => decide (k ∈ present (m.slots gaps))) =
      .ok (m.filled gaps) := by
  obtain ⟨area, primary⟩ := gaps
  cases area <;> cases primary <;> rfl

theorem reads_text (m : MonitorConfig) (gaps : MonitorGaps) {a : List Char} (h : m.Text gaps a) :
    Reads MonitorConfig.read a (m.filled gaps) :=
  (m.plan gaps).reads (m.value_of_slot gaps) (m.finish_stage gaps) h

end MonitorConfig

namespace HeadlessConfig

/-- The monitors with the standard values in their gaps. -/
def filledMonitors (monitors : List MonitorConfig) (within : Nat → MonitorGaps) :
    List MonitorConfig := monitors.zipIdx.map fun (m, i) => m.filled (within i)

theorem reads_monitors (monitors : List MonitorConfig) (within : Nat → MonitorGaps)
    {a : List Char} (h : MonitorsText monitors within a) :
    Reads (readList MonitorConfig.read) a (filledMonitors monitors within) := by
  obtain ⟨items, bracketed, texts⟩ := h
  refine reads_list bracketed (values_of_forall₂ texts fun _ _ => MonitorConfig.Text.value) ?_
  unfold filledMonitors
  rw [List.forall₂_map_right_iff]
  exact texts.imp fun _ p => p.1.reads_text (within p.2)

/-- The settings under construction. -/
def stage (c : HeadlessConfig) (gaps : HeadlessGaps) (seen : String → Bool) : Parts :=
  ⟨seenValue (seen "monitors") (filledMonitors c.monitors gaps.within),
    seenValue (seen "dpi") c.dpi, seenValue (seen "idle_wait_ms") c.idleWaitMs⟩

theorem plan (c : HeadlessConfig) (gaps : HeadlessGaps) :
    Plan record (c.slots gaps) (c.stage gaps) where
  distinct := by simp [slots, Slot.written]
  start := rfl
  fields := by
    refine .cons ?_ (.cons ?_ (.cons ?_ .nil))
    · exact Slot.fits_of_reads (fun _ => reads_monitors c.monitors gaps.within) (by simp [stage])
        (by simp [stage])
    · exact Slot.fits_of_reads (fun _ => readUInt32_inverts.reads) (by simp [stage, Slot.written])
        (by simp [stage, Slot.written])
    · exact Slot.fits_of_reads (fun _ => readUInt64_inverts.reads) (by simp [stage, Slot.written])
        (by simp [stage, Slot.written])

theorem finish_stage (c : HeadlessConfig) (gaps : HeadlessGaps) :
    record.finish (c.stage gaps fun k => decide (k ∈ present (c.slots gaps))) =
      .ok (c.filled gaps) := by
  obtain ⟨monitors, dpi, idleWaitMs, within⟩ := gaps
  cases monitors <;> cases dpi <;> cases idleWaitMs <;> rfl

theorem reads_text (c : HeadlessConfig) (gaps : HeadlessGaps) {a : List Char}
    (h : c.Text gaps a) : Reads HeadlessConfig.read a (c.filled gaps) :=
  (c.plan gaps).reads (c.value_of_slot gaps) (c.finish_stage gaps) h

end HeadlessConfig

namespace DisplayConfig

theorem reads_filter {s : String} {a : List Char} (h : FilterText s a) : Reads readString a s := by
  obtain ⟨b, string, rfl⟩ := h
  exact reads_string string

/-- A configuration under construction. -/
def stage (c : DisplayConfig) (gaps : Gaps) (seen : String → Bool) : Parts :=
  ⟨seenValue (seen "log_filter") c.logFilter,
    seenValue (seen "headless") (c.headless.filled gaps.within)⟩

theorem plan (c : DisplayConfig) (gaps : Gaps) : Plan record (c.slots gaps) (c.stage gaps) where
  distinct := by simp [slots]
  start := rfl
  fields := by
    refine .cons ?_ (.cons ?_ .nil)
    · exact Slot.fits_of_reads (fun _ => reads_filter) (by simp [stage]) (by simp [stage])
    · exact Slot.fits_of_reads (fun _ => c.headless.reads_text gaps.within) (by simp [stage])
        (by simp [stage])

theorem finish_stage (c : DisplayConfig) (gaps : Gaps) :
    record.finish (c.stage gaps fun k => decide (k ∈ present (c.slots gaps))) =
      .ok (c.filled gaps) := by
  obtain ⟨logFilter, headless, within⟩ := gaps
  cases logFilter <;> cases headless <;> rfl

/-- **A configuration with gaps is read** with the standard values in them. -/
theorem reads_text (c : DisplayConfig) (gaps : Gaps) {a : List Char} (h : c.Text gaps a) :
    Reads DisplayConfig.read a (c.filled gaps) :=
  (c.plan gaps).reads (c.value_of_slot gaps) (c.finish_stage gaps) h

end DisplayConfig

end DisplayEnv
