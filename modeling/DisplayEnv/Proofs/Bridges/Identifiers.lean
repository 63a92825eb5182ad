import DisplayEnv.Proofs.Bridges.OneMap

/-!
# Platforms, their identifiers and their bridges

Every text names a platform, and the identifier of that platform is the text again, but for the
second name of one of them. The other way round a platform is lost when it is none of the known ones
and still goes by a known name: reading its identifier gives the known platform. A bridge is chosen
for a platform or for a text, and the two choices differ for just these platforms.

* `Platform.fromIdentifier_identifier`: the platforms that their identifiers give back.
* `Bridge.forPlatform_platform`, `Bridge.forPlatform_tableFor`: what is chosen for a platform, and
  when it works.
* `identifiers_choose_bridges`: both together, for every text and every platform.
-/

namespace DisplayEnv

namespace Platform

/-- The names that are read as a known platform. -/
def knownNames : List String := ["win32", "macosx", "cocoa", "gtk", "headless"]

variable {s : String}

theorem fromIdentifier_unknown (unknown : s ∉ knownNames) : fromIdentifier s = .other s := by
  simp only [knownNames, List.mem_cons, List.not_mem_nil, or_false, not_or] at unknown
  obtain ⟨win32, macosx, cocoa, gtk, headless⟩ := unknown
  rw [fromIdentifier, if_neg win32, if_neg (not_or.mpr ⟨macosx, cocoa⟩), if_neg gtk,
    if_neg headless]

/-- A known name is never read as another platform. -/
theorem fromIdentifier_known (known : s ∈ knownNames) (name : String) :
    fromIdentifier s ≠ .other name := by
  simp only [knownNames, List.mem_cons, List.not_mem_nil, or_false] at known
  rcases known with rfl | rfl | rfl | rfl | rfl <;> exact nofun

/-- **A platform is given back by its identifier** unless it is another one with a known name. -/
theorem fromIdentifier_identifier (p : Platform) :
    fromIdentifier p.identifier = p ↔ ∀ s ∈ knownNames, p ≠ .other s := by
  constructor
  · rintro same s known rfl
    exact fromIdentifier_known known s same
  · intro apart
    cases p with
    | other name => exact fromIdentifier_unknown fun known => apart name known rfl
    | win32 | macosx | gtk | headless => rfl

end Platform

namespace Bridge

/-- What is written to a window can be read again. -/
def Works (b : Bridge) : Prop :=
  ∀ c w key value, Control.exposed? c = some w →
    ∃ after, b.trySetProperty c key value = .ok after ∧ after.tryProperty c key = .ok value

/-- A bridge for the platform has a fresh table, and works, just when it is the headless one. -/
structure TableFor (b : Bridge) (p : Platform) : Prop where
  table : b.strategy = .empty ↔ p = .headless
  works : b.Works ↔ p = .headless

theorem OnTable.works {b : Bridge} (hb : b.OnTable) : b.Works := by
  intro c w key value exposed
  obtain ⟨values, table⟩ := hb
  have set : b.strategy.set w key value = .ok (.table (((w, key), value) :: values)) := by
    rw [table]
    rfl
  refine ⟨⟨.table (((w, key), value) :: values)⟩, ?_, ?_⟩
  · rw [b.trySetProperty_of exposed, set]
    rfl
  · rw [tryProperty_of _ exposed, Properties.get_set set, if_pos rfl]

/-- Nothing can be written where properties are refused. -/
theorem Refuses.not_works {b : Bridge} {p : Platform} (hb : b.Refuses p) : ¬ b.Works := by
  intro works
  obtain ⟨after, written, -⟩ := works (.window ⟨1⟩) ⟨1⟩ 0 0 rfl
  rw [hb.tryWrite (.window ⟨1⟩) ⟨1⟩ 0 0 rfl] at written
  cases written

/-- The strategy that is chosen for any other platform. -/
theorem forPlatform_unsupported {p : Platform} (other : p ≠ .headless) :
    (forPlatform p).1 = ⟨.unsupported p⟩ := by
  rw [forPlatform, Properties.forPlatform, if_neg other]
  rfl

/-- **The bridge for a platform says so.** -/
theorem forPlatform_platform (p : Platform) : (forPlatform p).1.platform = p := by
  by_cases headless : p = .headless
  · subst headless
    rfl
  · rw [forPlatform_unsupported headless]
    rfl

/-- **There is one platform whose bridge works.** -/
theorem forPlatform_tableFor (p : Platform) : (forPlatform p).1.TableFor p := by
  by_cases headless : p = .headless
  · subst headless
    have works : (forPlatform .headless).1.Works := OnTable.works ⟨[], rfl⟩
    exact ⟨iff_of_true rfl rfl, iff_of_true works rfl⟩
  · rw [forPlatform_unsupported headless]
    have refused := (unsupported_refuses p).not_works
    exact ⟨iff_of_false nofun headless, iff_of_false refused headless⟩

end Bridge

/-- **Identifiers choose bridges.** A text is the identifier of the platform that it names, but for
the second name of one platform, and the bridge chosen for the text is the one of that platform. A
platform and its identifier choose alike unless the platform is another one with a known name. -/
theorem identifiers_choose_bridges :
    (∀ s, (Platform.fromIdentifier s).identifier = if s = "cocoa" then "macosx" else s) ∧
    (∀ p, Platform.fromIdentifier p.identifier = p ↔ ∀ s ∈ Platform.knownNames, p ≠ .other s) ∧
    (∀ s, (Bridge.forIdentifier s).1.platform.identifier =
      if s = "cocoa" then "macosx" else s) ∧
    (∀ p, (Bridge.forPlatform p).1.platform = p) ∧
    (∀ p, (Bridge.forPlatform p).1.platform = (Bridge.forIdentifier p.identifier).1.platform ↔
      ∀ s ∈ Platform.knownNames, p ≠ .other s) ∧
    (∀ p, (Bridge.forPlatform p).1.TableFor p) ∧
    ∀ s, (Bridge.forIdentifier s).1.TableFor (.fromIdentifier s) := by
  have named (s : String) : (Bridge.forIdentifier s).1.platform = .fromIdentifier s :=
    Bridge.forPlatform_platform (.fromIdentifier s)
  refine ⟨Platform.identifier_fromIdentifier, Platform.fromIdentifier_identifier, fun s => ?_,
    Bridge.forPlatform_platform, fun p => ?_, Bridge.forPlatform_tableFor,
    fun s => Bridge.forPlatform_tableFor (.fromIdentifier s)⟩
  · rw [named, Platform.identifier_fromIdentifier]
  · rw [named, Bridge.forPlatform_platform, eq_comm]
    exact p.fromIdentifier_identifier

/-- A platform that goes by a second name of another one is lost on the way. -/
example : (Bridge.forIdentifier (Platform.other "cocoa").identifier).1.platform = .macosx := by
  decide

end DisplayEnv
