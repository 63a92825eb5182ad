import DisplayEnv.Config
import DisplayEnv.Proofs.Files.Written
import DisplayEnv.Proofs.Json.Readers

/-!
# A saved configuration loads back

A configuration is written as an object of objects, and read by records of records. Each reader is
the way back from its writer, from the rectangle up to the whole configuration, and every number
that is written takes 64 bits, so a configuration is what its texts give, whatever stands in its
filter and at the limits of all its numbers. Saving writes one of those texts.

* `ofText_spelled`: any text of a configuration gives it back, whatever blanks stand in it.
* `load_eq`: loading is trying to load, with the standard configuration for every failure.
* `saved_loads_back`: both texts and a file that was saved give back the configuration.
-/

namespace DisplayEnv

open Json

/-! ## The readers of the records -/

theorem Rect.read_inverts : Inverts Rect.read Rect.toJson := by
  intro q d rest h
  exact Record.read_of_fills
    (.cons rfl rfl (readInt32_inverts.map q.x _) <|
      .cons rfl rfl (readInt32_inverts.map q.y _) <|
      .cons rfl rfl (readInt32_inverts.map q.width _) <|
      .cons rfl rfl (readInt32_inverts.map q.height _) .nil) rfl h

theorem MonitorConfig.toJson_eq (m : MonitorConfig) : m.toJson = .object
    [("bounds", m.bounds.toJson), ("work_area", m.workArea.elim .null Rect.toJson),
      ("primary", .bool m.primary)] := by
  unfold toJson
  cases m.workArea <;> rfl

theorem MonitorConfig.read_inverts : Inverts MonitorConfig.read MonitorConfig.toJson := by
  intro m d rest h
  rw [toJson_eq] at h
  have area := readOption_inverts Rect.read_inverts fun q => by simp [Rect.toJson]
  exact Record.read_of_fills
    (.cons rfl rfl (Rect.read_inverts.map m.bounds _) <|
      .cons rfl rfl (area.map m.workArea _) <|
      .cons rfl rfl (readBool_inverts.map m.primary _) .nil) rfl h

theorem HeadlessConfig.read_inverts : Inverts HeadlessConfig.read HeadlessConfig.toJson := by
  intro c d rest h
  have monitors := readList_inverts MonitorConfig.read_inverts
  exact Record.read_of_fills
    (.cons rfl rfl (monitors.map c.monitors _) <|
      .cons rfl rfl (readUInt32_inverts.map c.dpi _) <|
      .cons rfl rfl (readUInt64_inverts.map c.idleWaitMs _) .nil) rfl h

theorem DisplayConfig.read_inverts : Inverts DisplayConfig.read DisplayConfig.toJson := by
  intro c d rest h
  exact Record.read_of_fills
    (.cons rfl rfl (readString_inverts.map c.logFilter _) <|
      .cons rfl rfl (HeadlessConfig.read_inverts.map c.headless _) .nil) rfl h

/-! ## The numbers -/

theorem inRange_int32 (n : Int32) : InRange n.toInt := by
  have low : -0x80000000 ≤ n.toInt := n.le_toInt
  have high : n.toInt ≤ 0x7fffffff := n.toInt_le
  constructor <;> omega

theorem Rect.toJson_fits (q : Rect) : q.toJson.Fits :=
  ⟨inRange_int32 _, inRange_int32 _, inRange_int32 _, inRange_int32 _, trivial⟩

theorem MonitorConfig.toJson_fits (m : MonitorConfig) : m.toJson.Fits := by
  refine ⟨m.bounds.toJson_fits, ?_, trivial, trivial⟩
  cases m.workArea with
  | none => trivial
  | some q => exact q.toJson_fits

theorem HeadlessConfig.toJson_fits (c : HeadlessConfig) : c.toJson.Fits := by
  have dpi : c.dpi.toNat < 0x100000000 := c.dpi.toNat_lt
  have wait : c.idleWaitMs.toNat < 0x10000000000000000 := c.idleWaitMs.toNat_lt
  refine ⟨itemsFit_iff.mpr ?_, ⟨by omega, by omega⟩, ⟨by omega, by omega⟩, trivial⟩
  intro v hv
  obtain ⟨m, -, rfl⟩ := List.mem_map.mp hv
  exact m.toJson_fits

theorem DisplayConfig.toJson_fits (c : DisplayConfig) : c.toJson.Fits :=
  ⟨trivial, c.headless.toJson_fits, trivial⟩

namespace DisplayConfig

variable {c : DisplayConfig} {files files' later : Files} {path : String}

/-! ## Texts -/

/-- Every text of a configuration in the grammar gives the configuration. -/
theorem ofText_spelled {text : List Char} (h : Spelled c.toJson text) :
    ofText (String.ofList text) = .ok c := by
  unfold ofText
  rw [String.toList_ofList]
  exact readText_spelled read_inverts h

theorem ofText_compact (c : DisplayConfig) : ofText c.compact = .ok c :=
  ofText_spelled (compactChars_spelled _ c.toJson_fits)

theorem ofText_pretty (c : DisplayConfig) : ofText c.pretty = .ok c :=
  ofText_spelled (prettyChars_spelled 0 _ c.toJson_fits)

/-! ## Files -/

/-- A file with the text of a configuration gives the configuration. -/
theorem tryLoad_of_read (h : files.read path = .ok c.pretty.toUTF8.toList) :
    tryLoad files path = .ok c := by
  unfold tryLoad ofReading
  rw [Files.readText_of_read h]
  simp only [ofText_pretty]

theorem load_of_read (h : files.read path = .ok c.pretty.toUTF8.toList) :
    load files path = (c, []) := by
  unfold load orStandard
  rw [if_pos (Files.exists?_of_read h), tryLoad_of_read h]

/-- Loading gives what trying to load gives, or the standard configuration. -/
theorem load_eq (files : Files) (path : String) :
    (load files path).1 = match tryLoad files path with
      | .ok c => c
      | .error _ => standard := by
  unfold load
  split_ifs with there
  · unfold orStandard
    cases tryLoad files path <;> rfl
  · obtain ⟨e, unread⟩ := Files.readText_of_not_exists (by simpa using there)
    unfold tryLoad ofReading
    rw [unread]

/-- **A saved configuration loads back unchanged.** Both texts of a configuration give it back, and
so does a file that holds what was saved in it; and loading never does anything but take what trying
to load gives, or else the standard configuration. -/
theorem saved_loads_back :
    (∀ c : DisplayConfig, ofText c.compact = .ok c ∧ ofText c.pretty = .ok c ∧
      ∀ (files files' later : Files) (path : String), c.save files path = (.ok (), files') →
        later.read path = files'.read path →
        tryLoad later path = .ok c ∧ load later path = (c, [])) ∧
    ∀ (files : Files) (path : String), (load files path).1 = match tryLoad files path with
      | .ok c => c
      | .error _ => standard := by
  refine ⟨fun c => ⟨ofText_compact c, ofText_pretty c, ?_⟩, load_eq⟩
  intro files files' later path saved unchanged
  have written := Files.read_of_put saved
  rw [← unchanged] at written
  exact ⟨tryLoad_of_read written, load_of_read written⟩

/-- A configuration with escapes in its text and numbers at their limits. -/
def extreme : DisplayConfig :=
  ⟨"\"\\/\n\x01é😀", ⟨[⟨⟨-0x80000000, 0x7fffffff, 0, -1⟩, some ⟨0, 0, 1, 1⟩, true⟩,
    ⟨⟨0, 0, 0, 0⟩, none, false⟩], 0xffffffff, 0xffffffffffffffff⟩⟩

theorem saved_loads_back_extreme : ∃ files : Files,
    extreme.save .empty "/home/display.json" = (.ok (), files) ∧
      tryLoad files "/home/display.json" = .ok extreme ∧
      load files "/home/display.json" = (extreme, []) := by
  have path : "/home/display.json".splitOn "/" = ["", "home", "display.json"] := by
    rw [splitOn_slash]
    rfl
  have directory : "/home".splitOn "/" = ["", "home"] := by
    rw [splitOn_slash]
    rfl
  have above : Files.parent? "/home/display.json" = some "/home" := by
    simp only [Files.parent?, Files.components, path]
    decide +kernel
  have start (files : Files) : files.start "/home/display.json" = [] := if_pos (by decide +kernel)
  have start' (files : Files) : files.start "/home" = [] := if_pos (by decide +kernel)
  have saved (bytes : List UInt8) : Files.empty.put "/home/display.json" bytes =
      (.ok (), ⟨["work"], [(["home", "display.json"], .file bytes), (["home"], .directory),
        (["work"], .directory)]⟩) := by
    simp only [Files.put, Files.makeParent, above, Files.makeDirectories, Files.write, Files.locate,
      path, directory, start, start']
    rfl
  exact ⟨_, saved _, (saved_loads_back.1 extreme).2.2 _ _ _ _ (saved _) rfl⟩

end DisplayConfig

end DisplayEnv
