import GuestNat.Proofs.DocumentReading
import GuestNat.Proofs.SubnetReading
import GuestNat.Settings.Settings

/-!
# Settings files

A settings file is accepted if and only if its octets are the text of a JSON document that describes
settings, and then it gives those settings. The order of members, blanks and escapes do not matter.
Any other file, and one that cannot be read, is a fault that names the file.

* `ofContent_octets`, `ofContent_not_text`: the content of a file is a text or it is not;
* `Json.MembersDescribe.masked`: described subnets have no host bits;
* `settings_files_are_documents`: what reading a file comes to.
-/

namespace GuestNat

namespace FileSettings

variable {path : String} {settings : FileSettings}

theorem ofContent_octets (path text : String) :
    ofContent path (.ok (Text.Utf8.octets text)) =
      (Document.parse text).mapError (.unparsable path) := by
  have hdecode : Text.Utf8.decode? (Text.Utf8.octets text) = some text :=
    Text.Utf8.decode?_eq_some_iff.mpr rfl
  unfold ofContent
  simp only [hdecode]

theorem ofContent_not_text {bytes : Bytes} (h : ∀ text, bytes ≠ Text.Utf8.octets text) :
    ofContent path (.ok bytes) = .error (.unreadable path .notText) := by
  cases hdecode : Text.Utf8.decode? bytes with
  | none =>
      unfold ofContent
      simp only [hdecode]
  | some text => exact absurd (Text.Utf8.decode?_eq_some_iff.mp hdecode) (h text)

theorem ofContent_octets_eq_ok_iff {text : String} :
    ofContent path (.ok (Text.Utf8.octets text)) = .ok settings ↔
      Document.parse text = .ok settings := by
  rw [ofContent_octets, map_error_eq_ok_iff]

/-- Of the text of a document, the settings are those that its value describes. -/
theorem ofContent_document {json : Json} {text : String} (h : Json.Document json text) :
    ofContent path (.ok (Text.Utf8.octets text)) = .ok settings ↔ json.Describes settings := by
  rw [ofContent_octets_eq_ok_iff, Document.parse_document h]

/-- What is accepted is the text of a document. -/
theorem document_of_accepted {content : Except OsError Bytes}
    (h : ofContent path content = .ok settings) :
    ∃ text json, content = .ok (Text.Utf8.octets text) ∧ Json.Document json text := by
  cases content with
  | error cause => cases h
  | ok bytes =>
      -- bytes that are no text were turned away, and a text that was read is a document
      cases hdecode : Text.Utf8.decode? bytes with
      | none =>
          have hnot : ∀ text, bytes ≠ Text.Utf8.octets text := fun text heq => by
            rw [Text.Utf8.decode?_eq_some_iff.mpr heq] at hdecode
            cases hdecode
          rw [ofContent_not_text hnot] at h
          cases h
      | some text =>
          obtain rfl := Text.Utf8.decode?_eq_some_iff.mp hdecode
          obtain ⟨json, hjson⟩ := Document.document_of_parse (ofContent_octets_eq_ok_iff.mp h)
          exact ⟨text, json, rfl, hjson⟩

/-- Accepted are the documents that describe settings. -/
theorem ofContent_eq_ok_iff {content : Except OsError Bytes} :
    ofContent path content = .ok settings ↔
      ∃ text json, content = .ok (Text.Utf8.octets text) ∧ Json.Document json text ∧
        json.Describes settings := by
  constructor
  · intro h
    obtain ⟨text, json, rfl, hjson⟩ := document_of_accepted h
    exact ⟨text, json, rfl, hjson, (ofContent_document hjson).mp h⟩
  · rintro ⟨text, json, rfl, hjson, hdescribes⟩
    exact (ofContent_document hjson).mpr hdescribes

end FileSettings

/-- Described subnets have no host bits. -/
theorem Json.MembersDescribe.masked {members : List (String × Json)} {settings : FileSettings}
    (h : MembersDescribe members settings) : ∀ subnet ∈ settings.subnet, subnet.Masked := by
  intro subnet hsubnet
  -- a subnet that is set was named by a member, and its text was parsed
  by_cases hnamed : Field.subnet.name ∈ members.map Prod.fst
  · obtain ⟨member, hmember, hname⟩ := List.mem_map.mp hnamed
    obtain ⟨field, text, hfield, -, hholds⟩ := h.known member hmember
    obtain rfl : field = .subnet := Field.name_injective (hfield.symm.trans hname)
    cases text with
    | none =>
        have hnone : settings.subnet = none := hholds
        rw [hnone] at hsubnet
        cases hsubnet
    | some cidr =>
        obtain ⟨read, hparse, hread⟩ := hholds
        rw [hread] at hsubnet
        cases hsubnet
        exact Subnet.masked_of_parse hparse
  · have hnone : settings.subnet = none := h.absent .subnet hnamed
    rw [hnone] at hsubnet
    cases hsubnet

/-- The subnet of an accepted file has no host bits. -/
theorem FileSettings.masked_of_accepted {path : String} {content : Except OsError Bytes}
    {settings : FileSettings} (h : ofContent path content = .ok settings) :
    ∀ subnet ∈ settings.subnet, subnet.Masked := by
  obtain ⟨-, json, -, -, hdescribes⟩ := ofContent_eq_ok_iff.mp h
  cases hdescribes with
  | object hmembers => exact hmembers.masked
  | array _ hmembers => exact hmembers.masked

/-- What reading a settings file comes to, whatever it holds. -/
theorem settings_files_are_documents (path : String) (content : Except OsError Bytes) :
    -- accepted are the documents that describe settings, and they give those
    (∀ settings, FileSettings.ofContent path content = .ok settings ↔
      ∃ text json, content = .ok (Text.Utf8.octets text) ∧ Json.Document json text ∧
        json.Describes settings) ∧
    (∀ settings, FileSettings.ofContent path content = .ok settings →
      ∀ subnet ∈ settings.subnet, subnet.Masked) ∧
    -- a file that cannot be read, is no text, or describes no settings is a fault
    (∀ cause, content = .error cause →
      FileSettings.ofContent path content = .error (.unreadable path cause)) ∧
    (∀ bytes, content = .ok bytes → (∀ text, bytes ≠ Text.Utf8.octets text) →
      FileSettings.ofContent path content = .error (.unreadable path .notText)) ∧
    (∀ text, content = .ok (Text.Utf8.octets text) →
      (∀ json settings, Json.Document json text → ¬json.Describes settings) →
        ∃ cause, FileSettings.ofContent path content = .error (.unparsable path cause)) ∧
    -- the same members in any order, with any blanks and escapes, give the same settings
    (∀ first second text text', Json.Document first text → Json.Document second text' →
      first.Reordered second → ∀ settings,
        (FileSettings.ofContent path (.ok (Text.Utf8.octets text)) = .ok settings ↔
          FileSettings.ofContent path (.ok (Text.Utf8.octets text')) = .ok settings)) := by
  refine ⟨fun _ => FileSettings.ofContent_eq_ok_iff, fun _ => FileSettings.masked_of_accepted,
    ?_, ?_, ?_, ?_⟩
  · rintro cause rfl
    rfl
  · rintro bytes rfl hnot
    exact FileSettings.ofContent_not_text hnot
  · rintro text rfl hnone
    cases hparse : Document.parse text with
    | error cause => exact ⟨cause, by rw [FileSettings.ofContent_octets, hparse]; rfl⟩
    | ok settings =>
        obtain ⟨json, hjson⟩ := Document.document_of_parse hparse
        exact absurd ((Document.parse_document hjson).mp hparse) (hnone json settings hjson)
  · intro first second text text' hfirst hsecond horder settings
    rw [FileSettings.ofContent_document hfirst, FileSettings.ofContent_document hsecond]
    exact ⟨fun h => h.reordered horder, fun h => h.reordered horder.symm⟩

/-- Two files with the same members in another order, other blanks and an escape; a file that is no
text; one that repeats a name. -/
theorem settings_files_are_documents_respelled :
    let first := Json.object
      [("iptables", .string "x"), ("nat_subnet", .string "10.0.0.1/8"), ("tap_interface", .null)]
    let second := Json.object
      [("tap_interface", .null), ("nat_subnet", .string "10.0.0.1/8"), ("iptables", .string "x")]
    let text := "\x7b\"iptables\":\"x\",\"nat_subnet\":\"10.0.0.1/8\",\"tap_interface\":null\x7d"
    let text' :=
      " \x7b\"tap_interface\" : null,\n\"nat_subnet\":\"10.0.0.1/8\",\"iptables\":\"\\u0078\"\x7d"
    let repeated := "\x7b\"iptables\":null,\"iptables\":\"x\"\x7d"
    let subnet : Subnet := ⟨.ofOctets 10 0 0 0, 8⟩
    let settings : FileSettings := { iptables := some "x", subnet := some subnet }
    let read := FileSettings.ofContent "config.json"
    Json.Document first text ∧ Json.Document second text' ∧ first.Reordered second ∧
      read (.ok (Text.Utf8.octets text)) = .ok settings ∧
      read (.ok (Text.Utf8.octets text')) = .ok settings ∧ subnet.Masked ∧
      read (.error .notFound) = .error (.unreadable "config.json" .notFound) ∧
      read (.ok [0xFF]) = .error (.unreadable "config.json" .notText) ∧
      ∃ cause,
        read (.ok (Text.Utf8.octets repeated)) = .error (.unparsable "config.json" cause) := by
  intro first second text text' repeated subnet settings read
  have hnone := Document.blank_nil
  have hspace : Json.Blank [' '] := by decide +kernel
  have hline : Json.Blank ['\n'] := by decide +kernel
  have hiptables : Json.Spelled "iptables".toList "iptables".toList :=
    Json.spelled_self (by decide +kernel)
  have htap : Json.Spelled "tap_interface".toList "tap_interface".toList :=
    Json.spelled_self (by decide +kernel)
  have hsubnet : Json.Spelled "nat_subnet".toList "nat_subnet".toList :=
    Json.spelled_self (by decide +kernel)
  have hcidr : Json.Spelled "10.0.0.1/8".toList "10.0.0.1/8".toList :=
    Json.spelled_self (by decide +kernel)
  have hx : Json.Spelled "x".toList "x".toList := Json.spelled_self (by decide +kernel)
  have hunit : Json.HexUnit ['0', '0', '7', '8'] 'x'.toNat :=
    Json.HexUnit.four (w := 0) (x := 0) (y := 7) (z := 8) (by decide +kernel)
      (by decide +kernel) (by decide +kernel) (by decide +kernel)
  have hescaped : Json.Spelled "x".toList ('\\' :: 'u' :: ['0', '0', '7', '8'] ++ []) :=
    .unit hunit .nil
  have hfirst : Json.Document first text := by
    refine Json.Element.document (.blanks hnone (.object (.more
      (.named hnone hiptables hnone (.blanks hnone (.string hx) hnone)) (.more
      (.named hnone hsubnet hnone (.blanks hnone (.string hcidr) hnone)) (.one
      (.named hnone htap hnone (.blanks hnone .null hnone)))))) hnone) ?_
    decide +kernel
  have hsecond : Json.Document second text' := by
    refine Json.Element.document (.blanks hspace (.object (.more
      (.named hnone htap hspace (.blanks hspace .null hnone)) (.more
      (.named hline hsubnet hnone (.blanks hnone (.string hcidr) hnone)) (.one
      (.named hnone hiptables hnone (.blanks hnone (.string hescaped) hnone)))))) hnone) ?_
    decide +kernel
  have horder : first.Reordered second := .members (List.reverse_perm _).symm
  have hdescribes : second.Describes settings := by
    have hparse : Subnet.parse "10.0.0.1/8" = .ok subnet := by decide +kernel
    refine .object ⟨by decide +kernel, ?_, ?_⟩
    · simp only [List.forall_mem_cons]
      exact ⟨⟨.tap, none, rfl, .null, rfl⟩,
        ⟨.subnet, some "10.0.0.1/8", rfl, .string _, subnet, hparse, rfl⟩,
        ⟨.iptables, some "x", rfl, .string "x", rfl⟩, fun _ hmem => absurd hmem List.not_mem_nil⟩
    · intro field hfield
      cases field <;> first | rfl | exact absurd (by decide +kernel) hfield
  have hbroken : ∀ text, [0xFF] ≠ Text.Utf8.octets text := fun text heq => by
    have hdecode := Text.Utf8.decode?_eq_some_iff.mpr heq
    have hnot : Text.Utf8.decode? [0xFF] = none := by decide +kernel
    rw [hnot] at hdecode
    cases hdecode
  have hrepeated : ∀ json settings, Json.Document json repeated → ¬json.Describes settings := by
    intro json settings hjson hdescribes
    have hparse := (Document.parse_document hjson).mpr hdescribes
    have hfault : Document.parse repeated =
        .error (.unacceptable (.duplicateField .iptables)) := by
      decide +kernel
    rw [hfault] at hparse
    cases hparse
  obtain ⟨hread, hmasked, -⟩ :=
    settings_files_are_documents "config.json" (.ok (Text.Utf8.octets text'))
  obtain ⟨-, -, hunreadable, -⟩ := settings_files_are_documents "config.json" (.error .notFound)
  obtain ⟨-, -, -, hnotText, -⟩ := settings_files_are_documents "config.json" (.ok [0xFF])
  obtain ⟨-, -, -, -, hunparsable, hsame⟩ := settings_files_are_documents "config.json"
    (.ok (Text.Utf8.octets repeated))
  have hread' : read (.ok (Text.Utf8.octets text')) = .ok settings :=
    (hread _).mpr ⟨text', second, rfl, hsecond, hdescribes⟩
  exact ⟨hfirst, hsecond, horder,
    (hsame first second text text' hfirst hsecond horder _).mpr hread',
    hread', hmasked settings hread' subnet rfl, hunreadable .notFound rfl,
    hnotText [0xFF] rfl hbroken, hunparsable repeated rfl hrepeated⟩

end GuestNat
