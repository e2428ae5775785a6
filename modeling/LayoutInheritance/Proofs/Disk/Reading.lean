import LayoutInheritance.Yaml.File

/-! Why a file is not read or written. The refusals of the disk, and bytes that an encoding does not allow, are those of
any program that reads files. The others come from the encoding: its name holds a null character, it is no encoding of
texts, it leaves the order of bytes to a mark that the file does not have, or its decoder lies outside and complains. -/

namespace LayoutInheritance

/-- Refusals of the disk, and bytes that are no text. -/
def FileFault.isReported : FileFault → Bool
  | noByteOrderMark _ | complaint _ | unknownEncoding _ | notTextEncoding _ | nullInPath | nullInEncoding => false
  | _ => true

theorem exists_of_mapError {ε ε' α : Type} {x : Except ε α} {f : ε → ε'} {e' : ε'} (h : x.mapError f = .error e') :
    ∃ e, x = .error e ∧ e' = f e := by
  cases x with
  | error e =>
    cases h
    exact ⟨e, rfl, rfl⟩
  | ok => cases h

theorem ok_of_mapError {ε ε' α : Type} {x : Except ε α} {f : ε → ε'} {a : α} (h : x.mapError f = .ok a) :
    x = .ok a := by
  cases x <;> cases h
  rfl

/-- A sequence of steps fails in its first one, or after it. -/
theorem error_of_bind {ε α β : Type} {x : Except ε α} {f : α → Except ε β} {e : ε} (h : x >>= f = .error e) :
    x = .error e ∨ ∃ a, x = .ok a ∧ f a = .error e := by
  cases x with
  | error e' =>
    cases h
    exact .inl rfl
  | ok a => exact .inr ⟨a, rfl, h⟩

namespace Encoding

variable {codecs : Codecs} {name : String} {bytes : List UInt8} {fault : FileFault}

/-- The encodings between bytes and bytes, or between texts and texts. -/
def withoutText : List Encoding :=
  [.hex, .rot13, .base64, .quotedPrintable, .uu, .zlib, .bzip]

/-- The mark of an encoding that leaves the order of bytes to it, and what the encoding is called where the mark is
missing. The mark of the other order is the same backwards. -/
def mark? : Encoding → Option (String × List UInt8)
  | utf16 => some ("UTF-16", Utf16.mark)
  | utf32 => some ("UTF-32", Utf32.mark)
  | _ => none

/-- Why bytes are not read in an encoding, though none of them is to blame. -/
inductive Refuses (codecs : Codecs) (name : String) (bytes : List UInt8) : FileFault → Prop
  | withoutText {e} : ofName? name = some e → e ∈ withoutText → Refuses codecs name bytes (.notTextEncoding name)
  | withoutMark {e title mark} : ofName? name = some e → e.mark? = some (title, mark) → ¬ mark <+: bytes →
      ¬ mark.reverse <+: bytes → Refuses codecs name bytes (.noByteOrderMark title)
  | complaint {own message} : ofName? name = some (.foreign own) → codecs.decode own bytes = .error (.complaint message) →
      Refuses codecs name bytes (.complaint message)

theorem decodeMarked_error {title : String} {mark : List UInt8}
    {decode : ByteOrder → Nat → List UInt8 → Except DecodeFault (List Char)}
    (h : ByteOrder.decodeMarked title mark decode bytes = .error fault) : (∃ f, fault = .undecodable f) ∨
      ¬ mark <+: bytes ∧ ¬ mark.reverse <+: bytes ∧ fault = .noByteOrderMark title := by
  unfold ByteOrder.decodeMarked at h
  split at h
  · obtain ⟨f, -, hf⟩ := exists_of_mapError h
    exact .inl ⟨f, hf⟩
  · next hlittle =>
    split at h
    · obtain ⟨f, -, hf⟩ := exists_of_mapError h
      exact .inl ⟨f, hf⟩
    · next hbig =>
      split at h <;> cases h
      · exact .inl ⟨_, rfl⟩
      · exact .inr ⟨hlittle, hbig, rfl⟩

theorem decode_error {e : Encoding} (he : ofName? name = some e) (h : e.decode codecs name bytes = .error fault) :
    (∃ f, fault = .undecodable f) ∨ Refuses codecs name bytes fault := by
  cases e with
  | latin1 => cases h
  | utf16 | utf32 =>
    rcases decodeMarked_error h with hf | ⟨hlittle, hbig, rfl⟩
    · exact .inl hf
    · exact .inr (.withoutMark he rfl hlittle hbig)
  | hex | rot13 | base64 | quotedPrintable | uu | zlib | bzip =>
    cases h
    exact .inr (.withoutText he (by decide))
  | foreign own =>
    obtain ⟨f, hdecode, hf⟩ := exists_of_mapError h
    cases f with
    | undecodable f => exact .inl ⟨f, hf⟩
    | complaint message =>
      cases hf
      exact .inr (.complaint he hdecode)
  | _ =>
    obtain ⟨f, -, hf⟩ := exists_of_mapError h
    exact .inl ⟨f, hf⟩

/-- Bytes are read in an encoding that is known, unless they are no text in it or it refuses them otherwise. -/
theorem decodeNamed_error (hk : isKnown name) (h : decodeNamed codecs name bytes = .error fault) :
    (∃ f, fault = .undecodable f) ∨ Refuses codecs name bytes fault := by
  obtain ⟨e, he⟩ := Option.isSome_iff_exists.1 hk
  simp only [decodeNamed, he] at h
  exact decode_error he h

end Encoding

namespace Disk

variable {d : Disk} {codecs : Codecs} {read : Yaml.Reader} {cwd p : Path} {path encoding : String}
  {bytes : List UInt8} {fault : FileFault}

theorem find_of_readBytes (h : d.readBytes cwd p = .ok bytes) : ∃ place, d.find cwd p = (place, .file bytes) := by
  obtain ⟨place, found, hfind⟩ : ∃ place found, d.find cwd p = (place, found) := ⟨_, _, rfl⟩
  simp only [readBytes, hfind] at h
  cases found <;> cases h
  exact ⟨place, hfind⟩

/-- What is there is a file, or it is a directory. -/
theorem readBytes_error (hthere : d.isThere cwd p = .ok true) (h : d.readBytes cwd p = .error fault) :
    fault = .directory p.text := by
  obtain ⟨place, found, hfind⟩ : ∃ place found, d.find cwd p = (place, found) := ⟨_, _, rfl⟩
  simp only [isThere, readBytes, hfind] at hthere h
  cases found with
  | directory =>
    cases h
    rfl
  | file => cases h
  | nothing | blocked | unnameable | nameTooLong => cases hthere

theorem isThere_error (h : d.isThere cwd p = .error fault) : fault = .nameTooLong p.text := by
  unfold isThere at h
  split at h <;> cases h
  rfl

/-- A text in an encoding that is known is not read: the disk refuses it, or the encoding is to blame. -/
theorem readText_error (hk : Encoding.isKnown encoding) (hn : Encoding.hasNull encoding = false)
    (h : d.readText codecs cwd path encoding = .error fault) : fault.isReported ∨
      ∃ place bytes, d.find cwd (Path.ofString path) = (place, .file bytes) ∧
        Encoding.Refuses codecs encoding bytes fault := by
  rcases error_of_bind h with hthere | ⟨there, hthere, h⟩
  · rw [isThere_error hthere]
    exact .inl rfl
  · cases there with
    | false =>
      cases h
      exact .inl rfl
    | true =>
      simp only [hn, if_true, Bool.false_eq_true, if_false] at h
      rcases error_of_bind h with hb | ⟨bytes, hb, h⟩
      · rw [readBytes_error hthere hb]
        exact .inl rfl
      · obtain ⟨place, hfind⟩ := find_of_readBytes hb
        rcases error_of_bind h with hd | ⟨cs, -, h⟩
        · rcases Encoding.decodeNamed_error hk hd with ⟨f, rfl⟩ | hrefuses
          · exact .inl rfl
          · exact .inr ⟨place, bytes, hfind, hrefuses⟩
        · cases h

/-- A file of YAML that is not read is refused by the disk, or it is no text. -/
theorem readYaml_error (h : d.readYaml read cwd path = .error (.file fault)) : fault.isReported := by
  rcases error_of_bind h with hthere | ⟨there, hthere, h⟩
  · obtain ⟨f, hf, he⟩ := exists_of_mapError hthere
    cases he
    rw [isThere_error hf]
    rfl
  · have hthere' : d.isThere cwd (Path.ofString path) = .ok there := ok_of_mapError hthere
    cases there with
    | false =>
      cases h
      rfl
    | true =>
      simp only [Bool.not_true, Bool.false_eq_true, if_false] at h
      rcases error_of_bind h with hb | ⟨bytes, -, h⟩
      · obtain ⟨f, hf, he⟩ := exists_of_mapError hb
        cases he
        rw [readBytes_error hthere' hf]
        rfl
      · rcases error_of_bind h with hd | ⟨cs, -, h⟩
        · obtain ⟨f, -, he⟩ := exists_of_mapError hd
          cases he
          rfl
        · obtain ⟨f, -, he⟩ := exists_of_mapError h
          cases he

/-! ### Writing -/

/-- Why no file is written at a path: a directory above it cannot be made, or the file cannot be opened. -/
inductive Unwritable (d : Disk) (cwd p : Path) : FileFault → Prop
  | directory {d' fault} : d.makeDirectories cwd p.parent = (d', some fault) → Unwritable d cwd p fault
  | file {d' fault} : d.makeDirectories cwd p.parent = (d', none) → d'.openFile cwd p = .error fault →
      Unwritable d cwd p fault

end Disk

end LayoutInheritance
