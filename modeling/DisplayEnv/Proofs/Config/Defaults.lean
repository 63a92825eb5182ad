import DisplayEnv.Proofs.Config.Gaps
import DisplayEnv.Proofs.Json.Faults

/-!
# Defaults fill exactly the gaps

A configuration that is written without some of its fields is read with the standard values in their
places and with nothing else changed, in whatever order its members come, whatever other members
stand among them, and also when a record is written as an array that stops early. What has no
standard value may not be left out, and no field may come twice: then no configuration is read,
whatever else the text holds.

* `DisplayConfig.Faulty`: the texts without a configuration, on all levels.
* `DisplayConfig.gaps_filled`: what is read of a text with gaps, and that nothing is read of a
  faulty one.
-/

namespace DisplayEnv

open Json

/-! ## Faulty texts -/

/-- A rectangle without one of its numbers, or with one of them twice. -/
def Rect.Faulty : List Char → Prop :=
  FaultyText ["x", "y", "width", "height"] ["x", "y", "width", "height"] fun _ _ => False

/-- A monitor without bounds, with a field that comes twice, or with a faulty rectangle. -/
def MonitorConfig.Faulty : List Char → Prop :=
  FaultyText ["bounds", "work_area", "primary"] ["bounds"]
    fun name t => (name = "bounds" ∨ name = "work_area") ∧ Rect.Faulty t

/-- Settings with a field that comes twice, or with a faulty monitor. -/
def HeadlessConfig.Faulty : List Char → Prop :=
  FaultyText ["monitors", "dpi", "idle_wait_ms"] [] fun name t =>
    name = "monitors" ∧ ∃ items, ArrayOf items t ∧ ∃ m ∈ items, MonitorConfig.Faulty m

/-- **A configuration with a field that comes twice**, or with faulty settings. -/
def DisplayConfig.Faulty : List Char → Prop :=
  FaultyText ["log_filter", "headless"] []
    fun name t => name = "headless" ∧ HeadlessConfig.Faulty t

/-! ## Faulty texts are refused -/

variable {a : List Char}

namespace Rect

theorem tracks : record.Tracks ["x", "y", "width", "height"] where
  distinct := by simp [record]
  known := by simp [record]
  unset := by simp [record]
  sets := by
    intro f hf g hg d p q taken
    simp only [record, List.mem_cons, List.not_mem_nil, or_false] at hf hg
    rcases hf with rfl | rfl | rfl | rfl <;> obtain ⟨v, -, rfl⟩ := map_eq_ok taken <;>
      rcases hg with rfl | rfl | rfl | rfl <;> simp
  finished := by
    rintro ⟨x, y, width, height⟩ v finish f hf -
    simp only [record, List.mem_cons, List.not_mem_nil, or_false] at hf
    -- a number that is missing ends the record there
    cases x with
    | none => cases finish
    | some x =>
      cases y with
      | none => cases finish
      | some y =>
        cases width with
        | none => cases finish
        | some width =>
          cases height with
          | none => cases finish
          | some height => rcases hf with rfl | rfl | rfl | rfl <;> rfl

theorem Faulty.refuses (h : Faulty a) : Refuses Rect.read a :=
  tracks.refuses (fun _ _ _ part => part.elim) h

end Rect

namespace MonitorConfig

theorem tracks : record.Tracks ["bounds"] where
  distinct := by simp [record]
  known := by simp [record]
  unset := by simp [record]
  sets := by
    intro f hf g hg d p q taken
    simp only [record, List.mem_cons, List.not_mem_nil, or_false] at hf hg
    rcases hf with rfl | rfl | rfl <;> obtain ⟨v, -, rfl⟩ := map_eq_ok taken <;>
      rcases hg with rfl | rfl | rfl <;> simp
  finished := by
    rintro ⟨bounds, area, primary⟩ v finish f hf need
    simp only [record, List.mem_cons, List.not_mem_nil, or_false] at hf
    cases bounds with
    | none => cases finish
    | some bounds => rcases hf with rfl | rfl | rfl <;> simp at need ⊢

theorem Faulty.refuses (h : Faulty a) : Refuses MonitorConfig.read a := by
  refine tracks.refuses ?_ h
  simp only [record, List.forall_mem_cons]
  refine ⟨fun t part => part.2.refuses.not_took,
    fun t part => (part.2.refuses.option part.2.head).not_took, fun t part => ?_,
    List.forall_mem_nil _⟩
  simp at part

end MonitorConfig

namespace HeadlessConfig

theorem tracks : record.Tracks [] where
  distinct := by simp [record]
  known := nofun
  unset := by simp [record]
  sets := by
    intro f hf g hg d p q taken
    simp only [record, List.mem_cons, List.not_mem_nil, or_false] at hf hg
    rcases hf with rfl | rfl | rfl <;> obtain ⟨v, -, rfl⟩ := map_eq_ok taken <;>
      rcases hg with rfl | rfl | rfl <;> simp
  finished := nofun

theorem Faulty.refuses (h : Faulty a) : Refuses HeadlessConfig.read a := by
  refine tracks.refuses ?_ h
  simp only [record, List.forall_mem_cons]
  refine ⟨?_, fun t part => ?_, fun t part => ?_, List.forall_mem_nil _⟩
  · rintro t ⟨-, items, array, m, hm, faulty⟩
    exact (array.refuses hm faulty.refuses).not_took
  · simp at part
  · simp at part

end HeadlessConfig

namespace DisplayConfig

theorem tracks : record.Tracks [] where
  distinct := by simp [record]
  known := nofun
  unset := by simp [record]
  sets := by
    intro f hf g hg d p q taken
    simp only [record, List.mem_cons, List.not_mem_nil, or_false] at hf hg
    rcases hf with rfl | rfl <;> obtain ⟨v, -, rfl⟩ := map_eq_ok taken <;>
      rcases hg with rfl | rfl <;> simp
  finished := nofun

theorem Faulty.refuses (h : Faulty a) : Refuses DisplayConfig.read a := by
  refine tracks.refuses ?_ h
  simp only [record, List.forall_mem_cons]
  refine ⟨fun t part => ?_, fun t part => part.2.refuses.not_took, List.forall_mem_nil _⟩
  simp at part

theorem Text.value {c : DisplayConfig} {gaps : Gaps} (h : c.Text gaps a) : Value a :=
  RecordText.value (c.value_of_slot gaps) h

/-- **Defaults fill exactly the gaps.** A text of a configuration from which fields are left out, in
any form and with any other members, is read as the configuration with the standard values in the
gaps. An object without members is the standard configuration, or the standard settings, where all
settings may also be left out one by one. A text without a field that has no standard value, or with
a field that comes twice, is refused. -/
theorem gaps_filled :
    (∀ (c : DisplayConfig) (gaps : Gaps) (text : String) (a : List Char), c.Text gaps a →
      Framed a text.toList → ofText text = .ok (c.filled gaps)) ∧
    (∀ (text : String) (w : List Char), Blank w → Framed ('\x7b' :: (w ++ ['\x7d'])) text.toList →
      ofText text = .ok standard ∧
        readText HeadlessConfig.read text.toList = .ok HeadlessConfig.standard) ∧
    (∀ (c : DisplayConfig) (gaps : Gaps),
      gaps.within.monitors ∧ gaps.within.dpi ∧ gaps.within.idleWaitMs →
        (c.filled gaps).headless = HeadlessConfig.standard) ∧
    ∀ (text : String) (a : List Char), Faulty a → Framed a text.toList →
      ∃ e, ofText text = .error e := by
  refine ⟨fun c gaps text a h framed => ?_, fun text w hw framed => ⟨?_, ?_⟩, ?_, ?_⟩
  · exact readText_reads (c.reads_text gaps h) h.value framed
  · have h : Text standard .all ('\x7b' :: (w ++ ['\x7d'])) := .empty hw (by decide)
    exact readText_reads (standard.reads_text .all h) h.value framed
  · have h : HeadlessConfig.Text .standard .all ('\x7b' :: (w ++ ['\x7d'])) :=
      .empty hw (by decide)
    exact readText_reads (HeadlessConfig.standard.reads_text .all h) h.value framed
  · rintro c ⟨_, headless, ⟨_, _, _, _⟩⟩ ⟨rfl, rfl, rfl⟩
    cases headless <;> rfl
  · exact fun text a faulty framed => readText_refuses faulty.refuses faulty.value framed

/-- A resolution in a text with a stranger in front, a text with nothing in it, and two filters in
another text. -/
theorem gaps_filled_resolution :
    ofText "\x7b\"extra\":[null,\"\\ud800\"],\"headless\":\x7b\"dpi\":120\x7d\x7d" =
        .ok ⟨"info", { HeadlessConfig.standard with dpi := 120 }⟩ ∧
      (ofText "\x7b \x7d" = .ok standard ∧
        readText HeadlessConfig.read "\x7b \x7d".toList = .ok HeadlessConfig.standard) ∧
      (filled ⟨"", ⟨[], 120, 0⟩⟩ ⟨true, false, .all⟩).headless = HeadlessConfig.standard ∧
      ∃ e, ofText "\x7b\"log_filter\":\"a\",\"log_filter\":\"a\"\x7d" = .error e := by
  have framed (text : String) : Framed text.toList text.toList :=
    ⟨[], [], .nil, .nil, (List.append_nil _).symm⟩
  refine ⟨?_, gaps_filled.2.1 _ [' '] .space (framed _),
    gaps_filled.2.2.1 _ ⟨true, false, .all⟩ ⟨rfl, rfl, rfl⟩, ?_⟩
  · let c : DisplayConfig := ⟨"", ⟨[], 120, 0⟩⟩
    let gaps : Gaps := ⟨true, false, ⟨true, false, true, fun _ => ⟨false, false⟩⟩⟩
    have resolution : c.headless.Text gaps.within "\x7b\"dpi\":120\x7d".toList := by
      refine @RecordText.object _ [⟨⟨"dpi".toList, "120".toList⟩, "dpi"⟩] _
        (.members .nil .nil .nil (.close .nil)) ?_ ?_ ?_ (by decide)
      · exact List.forall_mem_singleton.mpr (.of_plain (by simp [Plain]))
      · intro m hm s hs same
        simp only [HeadlessConfig.slots, List.mem_cons, List.not_mem_nil, or_false] at hm hs
        obtain rfl := hm
        rcases hs with rfl | rfl | rfl
        · exact absurd same (by decide)
        · have fits : InRange 120 := ⟨by decide, by decide⟩
          exact Spelled.number fits
        · exact absurd same (by decide)
      · exact List.forall_mem_singleton.mpr fun unknown => absurd unknown (by decide)
    have stranger : Value "[null,\"\\ud800\"]".toList := by
      have surrogate : LooseText "\\ud800".toList := .code (.intro rfl rfl rfl rfl) .nil
      refine .array (.items .nil (.item .nil .nil (.close .nil))) (List.forall_mem_cons.mpr
        ⟨.null, List.forall_mem_singleton.mpr (.string surrogate)⟩)
    have text : c.Text gaps
        "\x7b\"extra\":[null,\"\\ud800\"],\"headless\":\x7b\"dpi\":120\x7d\x7d".toList := by
      refine @RecordText.object _ [⟨⟨"extra".toList, "[null,\"\\ud800\"]".toList⟩, "extra"⟩,
        ⟨⟨"headless".toList, "\x7b\"dpi\":120\x7d".toList⟩, "headless"⟩] _
        (.members .nil .nil .nil (.member .nil .nil .nil .nil (.close .nil))) ?_ ?_ ?_ (by decide)
      · exact List.forall_mem_cons.mpr ⟨.of_plain (by simp [Plain]),
          List.forall_mem_singleton.mpr (.of_plain (by simp [Plain]))⟩
      · intro m hm s hs same
        simp only [slots, List.mem_cons, List.not_mem_nil, or_false] at hm hs
        rcases hm with rfl | rfl <;> rcases hs with rfl | rfl
        · exact absurd same (by decide)
        · exact absurd same (by decide)
        · exact absurd same (by decide)
        · exact resolution
      · exact List.forall_mem_cons.mpr ⟨fun _ => stranger,
          List.forall_mem_singleton.mpr fun unknown => absurd unknown (by decide)⟩
    exact gaps_filled.1 c gaps _ _ text (framed _)
  · have filter : Value "\"a\"".toList := .string (.plain (by decide) .nil)
    have key : StringText "log_filter" "log_filter".toList := .of_plain (by simp [Plain])
    have object : ObjectOf [⟨⟨"log_filter".toList, "\"a\"".toList⟩, "log_filter"⟩,
        ⟨⟨"log_filter".toList, "\"a\"".toList⟩, "log_filter"⟩]
        "\x7b\"log_filter\":\"a\",\"log_filter\":\"a\"\x7d".toList :=
      ⟨.members .nil .nil .nil (.member .nil .nil .nil .nil (.close .nil)),
        List.forall_mem_cons.mpr ⟨key, List.forall_mem_singleton.mpr key⟩,
        List.forall_mem_cons.mpr ⟨filter, List.forall_mem_singleton.mpr filter⟩⟩
    have twice : Faulty "\x7b\"log_filter\":\"a\",\"log_filter\":\"a\"\x7d".toList :=
      .repeated object (show "log_filter" ∈ _ by decide) (by decide)
    exact gaps_filled.2.2.2 _ _ twice (framed _)

end DisplayConfig

end DisplayEnv
