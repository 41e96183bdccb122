import Mathlib
import RaceArchive.Proofs.ReadPrinted
import RaceArchive.Results.Entry

/-!
# Participants read back from their text

A participant is read from the text of its value by the keys the value has: a `cust_id` key makes
it a driver, else a `driver_results` key makes it a team, and any other text is refused
(`Participant.ofDoc_eq_ok_iff`). Being an inductive type, what is read is a driver or a team, and
never both.

A participant printed and read back is itself, except that each display name comes back as the
octets of the text it reads as (`Participant.read_toValue`); a name that is the octets of a text
comes back as it was, so a participant reads back exactly when its names are all texts
(`Participant.lossyNames_eq_self`, `Participant.namedInText_of_lossyNames`). The keys of a printed
line are plain, so which field each key selects is a computation on the key and the sorted keys
of the record (`selectsPlain`).
-/

namespace RaceArchive

namespace Json

open Utf8

/-! ## Plain keys -/

/-- Whether the printed key `str` is plain, with no octet to escape, and selects the key at `idx`
of the sorted `keys`: a computation on the key and the keys. -/
def selectsPlain (keys : Array ByteArray) (str : String) (idx : Nat) : Bool :=
  let ks := str.toList.flatMap String.utf8EncodeChar
  (str.toList.map fun ch => (escapeChar ch).toList.flatMap String.utf8EncodeChar).flatten == ks &&
  ks.all (fun o => o != 0x22 && o != 0x5C && o != 0) && !ks.isEmpty &&
  match Reader.narrowAll keys (List.range (if keys.size ≤ 8 then 8 else 16)) 0 ks, keys[idx]? with
  | some (i :: _, _), some key => i == idx && decide (key.size ≤ ks.length)
  | _, _ => false

theorem selectsKey_of_check {keys : Array ByteArray} {str : String} {idx : Nat}
    (h : selectsPlain keys str idx = true) : SelectsKey keys str idx := by
  have hks := octetsOf_eq_flatMap str
  simp only [selectsPlain, ← hks, Bool.and_eq_true, beq_iff_eq, Bool.not_eq_true',
    List.isEmpty_eq_false_iff] at h
  obtain ⟨⟨⟨hesc, hs⟩, hne⟩, hsel⟩ := h
  -- a plain key is written between quotes as it is
  have hq : octetsOf (quoteText str) = 0x22 :: octetsOf str ++ [0x22] := by
    rw [(quoteText_pieces str).2, ← hesc]
    simp only [octetsOf_eq_flatMap]
  split at hsel
  · next i alive k key hn hk =>
    simp only [Bool.and_eq_true, beq_iff_eq, decide_eq_true_eq] at hsel
    obtain ⟨rfl, hsize⟩ := hsel
    exact selectsKey_of_plain hq hs hne hn hk hsize
  · cases hsel

theorem selectsField_of_check {σ : Type} {fields : List (Reader.Field σ)} {str : String}
    {f : Reader.Field σ} (idx : Nat)
    (h : selectsPlain ((Reader.record.sorted fields).map (·.key.toUTF8)) str idx = true)
    (hf : (Reader.record.sorted fields)[idx]? = some f) : SelectsField fields str f :=
  ⟨idx, selectsKey_of_check h, hf⟩

/-- The keys of a printed object with tidy values, read as a document of their own. -/
theorem decode_objectKeys {ms : List (String × Value)} {k : Nat} (hv : (Value.obj ms).Tidy (k + 1))
    (hk : k + 1 ≤ nestingLimit) :
    decode Reader.objectKeys none (Value.obj ms).render.toUTF8 =
      .ok (some (ms.map Prod.fst).toArray) := by
  cases hv with
  | obj hms =>
    apply decode_of_run
    rw [objectKeys_reads hms (by omega) (rest_toUTF8 _) none, size_toUTF8, Nat.zero_add]

end Json

namespace Results

open Json Utf8

/-! ## Names as they read back -/

/-- A driver line whose display name is the text its octets read as. -/
def DriverLine.lossyName (x : DriverLine) : DriverLine :=
  { x with displayName := octetsOf (lossy x.displayName) }

/-- A team line whose display names, its own and its drivers', are the texts their octets read
as. -/
def TeamLine.lossyNames (x : TeamLine) : TeamLine :=
  { x with displayName := octetsOf (lossy x.displayName),
           driverResults := x.driverResults.map (·.map DriverLine.lossyName) }

/-- A participant whose display names are the texts their octets read as. -/
def Participant.lossyNames : Participant → Participant
  | .solo x => .solo x.lossyName
  | .team x => .team x.lossyNames

/-- A driver line whose display name is the octets of a text. -/
def DriverLine.NamedInText (x : DriverLine) : Prop := ∃ s, x.displayName = octetsOf s

/-- A participant whose display names, its own and its drivers', are the octets of texts. -/
def Participant.NamedInText : Participant → Prop
  | .solo x => x.NamedInText
  | .team x => (∃ s, x.displayName = octetsOf s) ∧
      ∀ ds ∈ x.driverResults, ∀ y ∈ ds, y.NamedInText

theorem octetsOf_lossy_of_text {o : Octets} (h : ∃ s, o = octetsOf s) : octetsOf (lossy o) = o := by
  obtain ⟨s, rfl⟩ := h
  rw [lossy_octetsOf]

theorem DriverLine.lossyName_eq_self {x : DriverLine} (h : x.NamedInText) : x.lossyName = x := by
  rw [lossyName, octetsOf_lossy_of_text h]

/-- Names that are texts read back as themselves. -/
theorem Participant.lossyNames_eq_self {p : Participant} (h : p.NamedInText) :
    p.lossyNames = p := by
  cases p with
  | solo x => rw [lossyNames, DriverLine.lossyName_eq_self h]
  | team x =>
    obtain ⟨hname, hdrivers⟩ := h
    have hlines : x.driverResults.map (·.map DriverLine.lossyName) = x.driverResults := by
      cases hx : x.driverResults with
      | none => rfl
      | some ds =>
        rw [Option.map_some, Array.map_congr_left fun y hy =>
          DriverLine.lossyName_eq_self (hdrivers ds hx y hy), Array.map_id']
    rw [lossyNames, TeamLine.lossyNames, octetsOf_lossy_of_text hname, hlines]

/-- A participant whose names read back as themselves is named in texts: each name is the octets
of the text it reads as. -/
theorem Participant.namedInText_of_lossyNames {p : Participant} (h : p.lossyNames = p) :
    p.NamedInText := by
  cases p with
  | solo x =>
    injection h with hx
    exact ⟨_, (congrArg DriverLine.displayName hx).symm⟩
  | team x =>
    injection h with hx
    refine ⟨⟨_, (congrArg TeamLine.displayName hx).symm⟩, fun ds hds y hy => ?_⟩
    rw [Option.mem_def] at hds
    have hlines : ds.map DriverLine.lossyName = ds.map id := by
      have := congrArg TeamLine.driverResults hx
      simp only [TeamLine.lossyNames, hds, Option.map_some, Option.some.injEq] at this
      rw [this, Array.map_id]
    have hy' : y.lossyName = y := Array.map_eq_map_iff.mp hlines y hy
    exact ⟨_, (congrArg DriverLine.displayName hy').symm⟩

/-! ## Numbers and names where they stand -/

theorem render_ofInt64_head (x : Int64) :
    ∃ c rest, octetsOf (Value.ofInt64 x).render = c :: rest ∧ isBlank c = false ∧ c ≠ 0x6E := by
  have hrender : octetsOf (Value.ofInt64 x).render = octetsOf (toString x.toInt) := rfl
  obtain ⟨c, rest, hcr, hc⟩ := numeral_cons x.toInt
  refine ⟨c, rest, hrender.trans hcr, ?_⟩
  rcases hc with rfl | hdig
  · exact ⟨rfl, by decide⟩
  · refine ⟨isBlank_of_isDigit hdig, fun e => ?_⟩
    rw [e] at hdig
    exact absurd hdig (by decide)

theorem teamId_reads (o : Option Int64) (target : String) (place : Place) :
    Reads (Reader.optional (Reader.int target place) 0) (.ofOption .ofInt64 o) (fun _ => o) := by
  cases o with
  | none => exact optional_reads_null _ _
  | some v =>
    obtain ⟨c, rest, hv, hc, hn⟩ := render_ofInt64_head v
    exact optional_reads (int_reads v target place) hv hc hn

/-! ## The lines read back -/

/-- A printed driver line reads back as itself, its display name as the text it reads as. -/
theorem DriverLine.reads (x : DriverLine) :
    Reads DriverLine.reader x.toValue (fun _ => x.lossyName) := by
  unfold DriverLine.reader DriverLine.toValue
  -- the members in printed order, each with the index of its key among the sorted keys
  refine Reads.congr (record_reads (.cons (selectsField_of_check 2 (by decide +kernel) rfl)
    (int_reads _ _ _).focus (.cons (selectsField_of_check 3 (by decide +kernel) rfl)
    (octets_reads _ _).focus (.cons (selectsField_of_check 6 (by decide +kernel) rfl)
    (int_reads _ _ _).focus (.cons (selectsField_of_check 4 (by decide +kernel) rfl)
    (int_reads _ _ _).focus (.cons (selectsField_of_check 5 (by decide +kernel) rfl)
    (int_reads _ _ _).focus (.cons (selectsField_of_check 0 (by decide +kernel) rfl)
    (int_reads _ _ _).focus (.cons (selectsField_of_check 1 (by decide +kernel) rfl)
    (int_reads _ _ _).focus .nil)))))))) fun _ => ?_
  rfl

/-- Printed driver lines, or `null`, read back as the lines, each name as the text it reads as. -/
theorem driverResults_reads (o : Option (Array DriverLine)) (target : String) (place : Place) :
    Reads (Reader.list DriverLine.reader {} target place)
      (.ofOption (fun ds => .arr (ds.toList.map DriverLine.toValue)) o)
      (fun _ => o.map (·.map DriverLine.lossyName)) := by
  cases o with
  | none => exact list_reads_null _ _ _ _
  | some ds =>
    have ho : Opens (ds.toList.map DriverLine.toValue) := by
      intro v hv
      obtain ⟨x, -, rfl⟩ := List.mem_map.mp hv
      exact ⟨0x7B, _, octetsOf_render_obj _, by decide, by decide⟩
    refine Reads.congr (list_reads (fun x _ => DriverLine.reads x) ho target place) fun _ => ?_
    rw [Option.map_some, ← Array.toList_map, Array.toArray_toList]

theorem TeamLine.reads (x : TeamLine) :
    Reads TeamLine.reader x.toValue (fun _ => x.lossyNames) := by
  unfold TeamLine.reader TeamLine.toValue
  refine Reads.congr (record_reads (.cons (selectsField_of_check 2 (by decide +kernel) rfl)
    (teamId_reads _ _ _).focus (.cons (selectsField_of_check 0 (by decide +kernel) rfl)
    (octets_reads _ _).focus (.cons (selectsField_of_check 1 (by decide +kernel) rfl)
    (driverResults_reads _ _ _).focus .nil)))) fun _ => ?_
  rfl

/-! ## Participants -/

theorem DriverLine.tidy (x : DriverLine) : x.toValue.Tidy 1 := by
  refine .obj fun m hm => ?_
  simp only [List.mem_cons, List.not_mem_nil, or_false] at hm
  rcases hm with rfl | rfl | rfl | rfl | rfl | rfl | rfl <;> first | exact .int _ | exact .octets _

theorem TeamLine.tidy (x : TeamLine) : x.toValue.Tidy 3 := by
  have hid : (Value.ofOption .ofInt64 x.teamId).Tidy 2 := by
    cases x.teamId with
    | none => exact .null
    | some v => exact .int _
  have hlines : (Value.ofOption (fun ds => .arr (ds.toList.map DriverLine.toValue))
      x.driverResults).Tidy 2 := by
    cases x.driverResults with
    | none => exact .null
    | some ds =>
      refine .arr fun v hv => ?_
      obtain ⟨y, -, rfl⟩ := List.mem_map.mp hv
      exact y.tidy
  refine .obj fun m hm => ?_
  simp only [List.mem_cons, List.not_mem_nil, or_false] at hm
  rcases hm with rfl | rfl | rfl
  · exact hid
  · exact .octets _
  · exact hlines

/-- A participant is read from the text of a value exactly when the value is an object whose keys
have `cust_id` and whose text reads as a driver line, or whose keys lack `cust_id`, have
`driver_results`, and whose text reads as a team line. -/
theorem Participant.ofDoc_eq_ok_iff (d : Doc) (p : Participant) :
    Participant.ofDoc d = .ok p ↔ ∃ keys, decode Reader.objectKeys none d = .ok (some keys) ∧
      (("cust_id" ∈ keys ∧ ∃ x, decode DriverLine.reader {} d = .ok x ∧ p = .solo x) ∨
        ("cust_id" ∉ keys ∧ "driver_results" ∈ keys ∧
          ∃ x, decode TeamLine.reader {} d = .ok x ∧ p = .team x)) := by
  unfold ofDoc
  cases hk : decode Reader.objectKeys none d with
  | error e => simp
  | ok keys =>
    cases keys with
    | none =>
      -- `null` has no keys, so it is neither variant
      simp [Array.contains]
    | some keys =>
      simp only [Option.getD_some, Except.ok.injEq, Option.some.injEq, exists_eq_left']
      by_cases hc : "cust_id" ∈ keys
      · rw [if_pos (Array.contains_iff_mem.mpr hc)]
        cases decode DriverLine.reader {} d with
        | error e => simp [hc]
        | ok x => simp [hc, eq_comm]
      · rw [if_neg (mt Array.contains_iff_mem.mp hc)]
        by_cases ht : "driver_results" ∈ keys
        · rw [if_pos (Array.contains_iff_mem.mpr ht)]
          cases decode TeamLine.reader {} d with
          | error e => simp [hc]
          | ok x => simp [hc, ht, eq_comm]
        · rw [if_neg (mt Array.contains_iff_mem.mp ht)]
          simp [hc, ht]

theorem Participant.read_eq_ofDoc (p : Participant) {k : Nat} (hv : p.toValue.Tidy k)
    (hk : k ≤ nestingLimit) {members : List (String × Value)} (hobj : p.toValue = .obj members) :
    Participant.read p.toValue.render.toUTF8 = Participant.ofDoc p.toValue.render.toUTF8 := by
  have hc : octetsOf p.toValue.render = 0x7B :: (octetsOf (renderMembers members) ++ [0x7D]) := by
    rw [hobj, octetsOf_render_obj]
    rfl
  exact decode_delegate hv hk hc (by decide) default

/-- A participant printed and read back is itself, each display name as the text it reads as. -/
theorem Participant.read_toValue (p : Participant) :
    Participant.read p.toValue.render.toUTF8 = .ok p.lossyNames := by
  cases p with
  | solo x =>
    have hkeys : decode Reader.objectKeys none x.toValue.render.toUTF8 =
        .ok (some #["cust_id", "display_name", "newi_rating", "incidents", "laps_complete",
          "average_lap", "car_id"]) := decode_objectKeys x.tidy (by decide)
    rw [read_eq_ofDoc _ x.tidy (by decide) rfl]
    show ofDoc x.toValue.render.toUTF8 = _
    -- the printed line has a `cust_id` key
    rw [ofDoc, hkeys]
    simp only [Option.getD_some]
    rw [if_pos (by decide +kernel), decode_reads (DriverLine.reads x)]
    rfl
  | team x =>
    have hkeys : decode Reader.objectKeys none x.toValue.render.toUTF8 =
        .ok (some #["team_id", "display_name", "driver_results"]) :=
      decode_objectKeys x.tidy (by decide)
    rw [read_eq_ofDoc _ x.tidy (by decide) rfl]
    show ofDoc x.toValue.render.toUTF8 = _
    -- the printed line has a `driver_results` key and no `cust_id` key
    rw [ofDoc, hkeys]
    simp only [Option.getD_some]
    rw [if_neg (by decide +kernel), if_pos (by decide +kernel), decode_reads (TeamLine.reads x)]
    rfl

/-- **Participants: tagged variants and the round trip.** For every text `d` of a value, a
participant is read from it exactly when the value is an object whose keys have `cust_id` and
whose text reads as a driver line, or lack `cust_id`, have `driver_results` and read as a team
line; what is read is then a driver or a team, and never both. Every participant `p` printed and
read back is itself, with each display name, its own and its drivers', as the text its octets read
as; so it reads back exactly as itself when, and only when, its display names are texts. -/
theorem participant_variants_round_trip (d : Doc) (p : Participant) :
    (Participant.ofDoc d = .ok p ↔ ∃ keys, decode Reader.objectKeys none d = .ok (some keys) ∧
        (("cust_id" ∈ keys ∧ ∃ x, decode DriverLine.reader {} d = .ok x ∧ p = .solo x) ∨
          ("cust_id" ∉ keys ∧ "driver_results" ∈ keys ∧
            ∃ x, decode TeamLine.reader {} d = .ok x ∧ p = .team x))) ∧
      Participant.read p.toValue.render.toUTF8 = .ok p.lossyNames ∧
      (Participant.read p.toValue.render.toUTF8 = .ok p ↔ p.NamedInText) := by
  refine ⟨Participant.ofDoc_eq_ok_iff d p, Participant.read_toValue p, ?_⟩
  rw [Participant.read_toValue, Except.ok.injEq]
  exact ⟨Participant.namedInText_of_lossyNames, Participant.lossyNames_eq_self⟩

end Results

end RaceArchive
