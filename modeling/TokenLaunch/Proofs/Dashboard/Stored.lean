/-
# The stored dashboard

What a dashboard writes, it reads, but for two things.  A record that was made by hand may call an
unrecognized standard `nft`, and the text `nft` spells a kind; and its time may be in a leap second
that does not end a minute, which is written like the next second.  So what comes back is the
dashboard with every standard and every time read anew (`Dashboard.parse?_text`), and it is the same
dashboard exactly if every standard is one that some text reads as and every time is proper
(`Dashboard.parse?_text_iff`).  Whatever was read meets this condition, so a dashboard that came
from a text survives being written, and the text written for it is a fixed point
(`Dashboard.survives_writing`).
-/
import TokenLaunch.Dashboard.State
import TokenLaunch.Proofs.Json.Fields
import TokenLaunch.Proofs.Json.ReadBack
import TokenLaunch.Proofs.Time.ReadBack

namespace TokenLaunch

/-! ## Standards -/

namespace Standard

/-- A standard is read back from its text if any text at all reads as it. -/
lemma ofText_text_iff {s : Standard} : ofText s.text = s ↔ ∃ raw, ofText raw = s := by
  refine ⟨fun h => ⟨s.text, h⟩, ?_⟩
  rintro ⟨raw, rfl⟩
  cases h : ofText raw with
  | known k => rw [text_known, ofText_name]
  | unrecognized t =>
    obtain ⟨rfl, -⟩ := ofText_eq_unrecognized_iff.mp h
    rw [text_unrecognized, h]

end Standard

/-! ## Records -/

namespace Record

open Json

variable {r : Record}

/-- A record that is stored as it is. -/
structure IsStorable (r : Record) : Prop where
  /-- Some text reads as the standard. -/
  standard : ∃ raw, Standard.ofText raw = r.standard
  deployedAt : r.deployedAt.IsProper

/-- The record with its standard and its time read anew. -/
def reread (r : Record) : Record :=
  { r with
    standard := Standard.ofText r.standard.text
    deployedAt := r.deployedAt.reread }

lemma standard_reread (r : Record) : r.reread.standard = Standard.ofText r.standard.text := by
  rw [reread]

lemma deployedAt_reread (r : Record) : r.reread.deployedAt = r.deployedAt.reread := by
  rw [reread]

/-- Reading anew keeps a record exactly if it is storable. -/
lemma reread_eq_iff : r.reread = r ↔ r.IsStorable := by
  refine ⟨fun h => ⟨?_, ?_⟩, fun h => ?_⟩
  · rw [← Standard.ofText_text_iff, ← standard_reread, h]
  · rw [← Instant.reread_eq_iff, ← deployedAt_reread, h]
  · rw [reread, Standard.ofText_text_iff.mpr h.standard, Instant.reread_eq_iff.mpr h.deployedAt]

/-- What was read anew is storable. -/
lemma isStorable_reread (r : Record) : r.reread.IsStorable where
  standard := ⟨r.standard.text, (standard_reread r).symm⟩
  deployedAt := by
    rw [deployedAt_reread]
    exact r.deployedAt.isProper_reread

@[simp] lemma reread_reread (r : Record) : r.reread.reread = r.reread :=
  reread_eq_iff.mpr r.isStorable_reread

/-- A record as text. -/
def text (r : Record) : String := r.toJson.pretty

/-- The record that a text describes. -/
def parse? (s : String) : Option Record :=
  (Json.parse? s).bind ofJson?

/-- The names of the members, one for each field that is written. -/
lemma map_fst_members (r : Record) :
    r.members.map Prod.fst = fieldNames.filter fun n => n != "decimals" || r.decimals.isSome := by
  cases h : r.decimals <;> simp [members, h, fieldNames]

lemma nodup_members (r : Record) : (r.members.map Prod.fst).Nodup := by
  rw [map_fst_members]
  exact List.Nodup.filter _ (by decide)

/-- A number of eight bits is read back. -/
lemma byte?_natural (b : UInt8) : (natural b.toNat).byte? = some b := by
  simp [natural, byte?, natBelow?, b.toNat_lt]

/-- The decimals are read back, also where they are left out. -/
lemma optional?_decimals (r : Record) :
    Fields.optional? ["decimals"] (nullable? byte?) none r.members = some r.decimals := by
  cases h : r.decimals with
  | none =>
    refine Fields.optional?_of_not_mem fun m hm hname => ?_
    have : m.1 ∈ r.members.map Prod.fst := List.mem_map_of_mem hm
    simp_all [map_fst_members]
  | some b =>
    rw [Fields.optional?_of_mem r.nodup_members (x := natural b.toNat) (by simp [members, h])]
    simpa [natural, nullable?] using byte?_natural b

/-- A member is read by the reader of its field. -/
lemma required?_members {α : Type} {read : Json → Option α} {n : String} {j : Json} {a : α}
    (hmem : (n, j) ∈ r.members) (hread : read j = some a) :
    Fields.required? [n] read r.members = some a := by
  rw [Fields.required?_of_mem r.nodup_members hmem, hread]

lemma required?_text {n s : String} (hmem : (n, .string s) ∈ r.members) :
    Fields.required? [n] Json.text? r.members = some s :=
  required?_members hmem rfl

/-- A record is read back from its members, with its standard and its time read anew. -/
lemma ofMembers?_members (r : Record) : ofMembers? r.members = some r.reread := by
  have hid := required?_text (r := r) (n := "id") (s := r.id) (by simp [members])
  have haddress := required?_text (r := r) (n := "address") (s := r.address) (by simp [members])
  have hname := required?_text (r := r) (n := "name") (s := r.name) (by simp [members])
  have hsymbol := required?_text (r := r) (n := "symbol") (s := r.symbol) (by simp [members])
  have hdeployer := required?_text (r := r) (n := "deployer") (s := r.deployer)
    (by simp [members])
  have htransaction := required?_text (r := r) (n := "txHash") (s := r.transaction)
    (by simp [members])
  -- the standard, the time and the network are texts that have to be read in turn
  have hstandard : Fields.required? ["standard"] (fun j => j.text?.map Standard.ofText) r.members =
      some (Standard.ofText r.standard.text) :=
    required?_members (j := .string r.standard.text) (by simp [members]) rfl
  have hdeployedAt : Fields.required? ["deployedAt"] (fun j => j.text?.bind Timestamp.parse?)
      r.members = some r.deployedAt.reread :=
    required?_members (j := .string (Timestamp.text r.deployedAt)) (by simp [members])
      (Timestamp.parse?_text r.deployedAt)
  have hnetwork : Fields.required? ["network"] (fun j => j.choice?.bind Network.ofName?)
      r.members = some r.network :=
    required?_members (j := .string r.network.name) (by simp [members])
      (Network.ofName?_name r.network)
  have hverified : Fields.required? ["verified"] Json.bool? r.members = some r.verified :=
    required?_members (j := .bool r.verified) (by simp [members]) rfl
  have hfeatures : Fields.optional? ["features"] (list? Json.text?) [] r.members =
      some r.features := by
    have hlist : list? Json.text? (.array (r.features.map .string)) =
        some (r.features.map fun s => s) := list?_map fun _ _ => rfl
    rw [Fields.optional?_of_mem r.nodup_members
      (x := .array (r.features.map .string)) (by simp [members]), hlist, List.map_id']
  simp only [ofMembers?, hid, haddress, hstandard, hname, hsymbol, optional?_decimals,
    hdeployedAt, hdeployer, htransaction, hnetwork, hverified, hfeatures, Option.bind_eq_bind,
    Option.bind_some, Option.pure_def]
  rfl

lemma ofJson?_toJson (r : Record) : ofJson? r.toJson = some r.reread :=
  r.ofMembers?_members

/-- No part of a record's JSON form stands for no text. -/
lemma isReadable_toJson (r : Record) : r.toJson.isReadable = true := by
  have hfeatures : allReadable (r.features.map .string) = true := by
    simp [allReadable_iff, isReadable]
  cases h : r.decimals <;>
    simp [toJson, members, h, isReadable, membersReadable, hfeatures, natural]

/-- What was read is storable: its standard and its time are those of texts. -/
lemma isStorable_of_ofMembers? {ms : List (String × Json)} (h : ofMembers? ms = some r) :
    r.IsStorable := by
  obtain ⟨_, -, h⟩ := Option.bind_eq_some_iff.mp h
  obtain ⟨_, -, h⟩ := Option.bind_eq_some_iff.mp h
  obtain ⟨standard, hstandard, h⟩ := Option.bind_eq_some_iff.mp h
  -- the other fields do not matter
  iterate 3 obtain ⟨_, -, h⟩ := Option.bind_eq_some_iff.mp h
  obtain ⟨deployedAt, hdeployedAt, h⟩ := Option.bind_eq_some_iff.mp h
  iterate 5 obtain ⟨_, -, h⟩ := Option.bind_eq_some_iff.mp h
  obtain rfl := Option.some.inj h
  obtain ⟨j, hj⟩ := Fields.exists_of_required? hstandard
  obtain ⟨raw, -, hraw⟩ := Option.map_eq_some_iff.mp hj
  obtain ⟨j', hj'⟩ := Fields.exists_of_required? hdeployedAt
  obtain ⟨s, -, hs⟩ := Option.bind_eq_some_iff.mp hj'
  exact ⟨⟨raw, hraw⟩, Timestamp.isProper_of_parse? hs⟩

lemma isStorable_of_ofJson? {j : Json} (h : ofJson? j = some r) : r.IsStorable := by
  obtain ⟨ms, -, hms⟩ := Option.bind_eq_some_iff.mp h
  exact isStorable_of_ofMembers? hms

lemma isStorable_of_parse? {s : String} (h : parse? s = some r) : r.IsStorable := by
  obtain ⟨j, -, hj⟩ := Option.bind_eq_some_iff.mp h
  exact isStorable_of_ofJson? hj

/-- A record is read back from its text, with its standard and its time read anew. -/
lemma parse?_text (r : Record) : parse? r.text = some r.reread := by
  rw [parse?, text, parse?_pretty r.isReadable_toJson, Option.bind_some, ofJson?_toJson]

end Record

/-! ## Dashboards -/

namespace Dashboard

open Json

variable {d : Dashboard} {s : String}

/-- Every record is storable. -/
def IsStorable (d : Dashboard) : Prop :=
  ∀ r ∈ d.tokens, r.IsStorable

/-- The dashboard with every standard and every time read anew. -/
def reread (d : Dashboard) : Dashboard :=
  { d with tokens := d.tokens.map Record.reread }

/-- Reading anew keeps a dashboard exactly if its records are storable. -/
lemma reread_eq_iff : d.reread = d ↔ d.IsStorable := by
  have htokens : d.reread = d ↔ d.tokens.map Record.reread = d.tokens :=
    ⟨fun h => congrArg Dashboard.tokens h, fun h => by rw [reread, h]⟩
  have hmap : d.tokens.map Record.reread = d.tokens ↔ ∀ r ∈ d.tokens, r.reread = id r := by
    rw [← List.map_inj_left, List.map_id]
  rw [htokens, hmap]
  exact forall₂_congr fun r _ => Record.reread_eq_iff

lemma ofJson?_toJson (d : Dashboard) : ofJson? d.toJson = some d.reread := by
  have htokens : list? Record.ofJson? (.array (d.tokens.map Record.toJson)) =
      some (d.tokens.map Record.reread) :=
    list?_map fun r _ => r.ofJson?_toJson
  have hread : ofJson? d.toJson = (list? Record.ofJson? (.array (d.tokens.map Record.toJson))).bind
      fun tokens => some { d with tokens } := rfl
  rw [hread, htokens, Option.bind_some, reread]

lemma isReadable_toJson (d : Dashboard) : d.toJson.isReadable = true := by
  have htokens : allReadable (d.tokens.map Record.toJson) = true := by
    simp [allReadable_iff, Record.isReadable_toJson]
  simp [toJson, isReadable, membersReadable, htokens]

/-- What was read holds storable records only. -/
lemma isStorable_of_parse? (h : parse? s = some d) : d.IsStorable := by
  obtain ⟨j, -, hj⟩ := Option.bind_eq_some_iff.mp h
  obtain ⟨ms, -, hms⟩ := Option.bind_eq_some_iff.mp hj
  simp only [ofMembers?, Option.bind_eq_bind, Option.bind_eq_some_iff, Option.pure_def,
    Option.some.injEq] at hms
  obtain ⟨_, -, tokens, htokens, rfl⟩ := hms
  intro r hr
  rcases Fields.exists_of_optional? htokens with rfl | ⟨item, hitem⟩
  · simp at hr
  · obtain ⟨i, hi⟩ := exists_of_list? hitem hr
    exact Record.isStorable_of_ofJson? hi

/-- A dashboard is read back from its text, with every standard and every time read anew. -/
theorem parse?_text (d : Dashboard) : parse? d.text = some d.reread := by
  rw [parse?, text, parse?_pretty d.isReadable_toJson, Option.bind_some, ofJson?_toJson]

/-- **A dashboard is read back from its text exactly if its records are storable.** -/
theorem parse?_text_iff (d : Dashboard) : parse? d.text = some d ↔ d.IsStorable := by
  rw [parse?_text, Option.some_inj, reread_eq_iff]

/-- **A stored dashboard survives.**  It is read back from the text that is written for it exactly if
its records are storable; and whatever text a dashboard or a record was read from, the text written
for what was read is accepted, reads as the same and is written as it stands. -/
theorem survives_writing :
    (∀ d : Dashboard, parse? d.text = some d ↔ d.IsStorable) ∧
    (∀ (s : String) (d : Dashboard), parse? s = some d →
      parse? d.text = some d ∧ (parse? d.text).map text = some d.text) ∧
    (∀ (s : String) (r : Record), Record.parse? s = some r →
      Record.parse? r.text = some r ∧
        (Record.parse? r.text).map Record.text = some r.text) := by
  refine ⟨parse?_text_iff, fun s d h => ?_, fun s r h => ?_⟩
  · have hback := (parse?_text_iff d).mpr (isStorable_of_parse? h)
    exact ⟨hback, by rw [hback]; rfl⟩
  · have hback := r.parse?_text
    rw [Record.reread_eq_iff.mpr (Record.isStorable_of_parse? h)] at hback
    exact ⟨hback, by rw [hback]; rfl⟩

/-- A record as another program may write it: an array without features, the standard in another
spelling, an escape, a leap second with ten digits of a fraction and an offset, and the network as
an object. -/
def foreignRecord : String :=
  "[\"a\",\"b\",\" NFT\",\"\\u00e9\",\"\",null,\"2024-03-05 0:9:60.12345678912+0130\",\"\",\"\"," ++
    "\x7b\"mainnet\":null\x7d,true]"

/-- A dashboard with the former name of the endpoint, a foreign record and an unknown field. -/
def foreign : String :=
  "\x7b\"rpcUrl\":\"x\",\"deployedTokens\":[" ++ foreignRecord ++ "],\"later\":1e3\x7d"

/-- What the foreign record says. -/
def foreignToken : Record where
  id := "a"
  address := "b"
  standard := .known .uniqueAsset
  name := "é"
  symbol := ""
  decimals := none
  deployedAt := ⟨⟨2024, 3, 4⟩, 1359, 59, 1123456789, by decide, by decide, by decide, by decide⟩
  deployer := ""
  transaction := ""
  network := .mainnet
  verified := true
  features := []

theorem survives_writing_foreign :
    parse? (text ⟨"x", [foreignToken]⟩) = some ⟨"x", [foreignToken]⟩ ∧
    (parse? (text ⟨"x", [foreignToken]⟩)).map text = some (text ⟨"x", [foreignToken]⟩) ∧
    Record.parse? foreignToken.text = some foreignToken := by
  have hread : parse? foreign = some ⟨"x", [foreignToken]⟩ := by decide +kernel
  have hrecord : Record.parse? foreignRecord = some foreignToken := by decide +kernel
  refine ⟨(survives_writing.1 ⟨"x", [foreignToken]⟩).mpr ?_,
    (survives_writing.2.1 foreign _ hread).2, (survives_writing.2.2 foreignRecord _ hrecord).1⟩
  intro r hr
  obtain rfl : r = foreignToken := by simpa using hr
  exact ⟨⟨"ERC721", Standard.ofText_name .uniqueAsset⟩, by decide⟩

/-- Half a second into a leap second after 12:34:07. -/
def strayLeapSecond : Instant :=
  ⟨⟨2024, 3, 5⟩, 754, 7, 1500000000, by decide, by decide, by decide, by decide⟩

/-- A leap second that does not end a minute comes back as the next second, also where the standard
is that of a text; and no text is read as one, for an offset is one of hours and minutes. -/
theorem strayLeapSecond_lost :
    (∃ raw, Standard.ofText raw = foreignToken.standard) ∧
    Timestamp.text strayLeapSecond = "2024-03-05T12:34:08.500Z" ∧
    parse? (text ⟨"x", [{ foreignToken with deployedAt := strayLeapSecond }]⟩) =
      some ⟨"x", [{ foreignToken with deployedAt := strayLeapSecond.reread }]⟩ ∧
    strayLeapSecond.reread ≠ strayLeapSecond ∧
    Timestamp.parse? "2016-12-31T23:59:60.5-00:03:57" = none := by
  have hreread : reread ⟨"x", [{ foreignToken with deployedAt := strayLeapSecond }]⟩ =
      ⟨"x", [{ foreignToken with deployedAt := strayLeapSecond.reread }]⟩ := by decide +kernel
  refine ⟨⟨"ERC721", Standard.ofText_name .uniqueAsset⟩, by decide +kernel, ?_, by decide,
    by decide +kernel⟩
  rw [parse?_text, hreread]

end Dashboard
end TokenLaunch
