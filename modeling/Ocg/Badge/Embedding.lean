import Ocg.Badge.Png

/-!
# Embedded credentials round-trip

A PNG file is a signature, chunks, and a terminator chunk. Reading at the offset of an encoded chunk
gives the chunk back, whatever bytes its data holds, since the length decides where it ends; and a
chunk that is read is an encoded chunk at that offset. So the scan of a file follows its chunks one
by one, and neither loop can mistake the bytes of a credential for a chunk.
-/

namespace Ocg.Png

open Relational Binary

/-! ## Chunks -/

structure Chunk where
  kind : List UInt8
  data : List UInt8
  kind_length : kind.length = 4
  data_length : data.length < 2 ^ 32

/-- The chunk is read as a credential. -/
def Chunk.IsCredential (c : Chunk) : Prop := c.kind = itxt ∧ credentialKeyword <+: c.data

instance : DecidablePred Chunk.IsCredential := fun c ↦
  inferInstanceAs (Decidable (c.kind = itxt ∧ credentialKeyword <+: c.data))

/-- Chunks up to the first terminator, and nothing behind it. -/
structure Stream where
  chunks : List Chunk
  terminator : Chunk
  chunks_kind : ∀ c ∈ chunks, c.kind ≠ iend
  terminator_kind : terminator.kind = iend

variable (crc : List UInt8 → UInt32)

def Chunk.encode (c : Chunk) : List UInt8 :=
  toBigEndian 4 c.data.length ++ c.kind ++ c.data ++ toBigEndian 4 (crc (c.kind ++ c.data)).toNat

def Stream.encode (s : Stream) : List UInt8 :=
  pngSignature ++ s.chunks.flatMap (Chunk.encode crc) ++ s.terminator.encode crc

variable {crc}

theorem Chunk.length_encode (c : Chunk) : (c.encode crc).length = 12 + c.data.length := by
  simp only [encode, List.length_append, length_toBigEndian, c.kind_length]
  omega

theorem encodeChunk_eq (crc : List UInt8 → UInt32) (c : Chunk) :
    encodeChunk crc c.kind c.data = .ok (c.encode crc) := by
  rw [encodeChunk, require_of c.data_length]
  rfl

/-- **Reading an encoded chunk.** -/
theorem readChunk_encode (crc : List UInt8 → UInt32) (c : Chunk)
    (hsize : c.data.length ≤ maxPngSize) (front back : List UInt8) :
    readChunk crc (front ++ c.encode crc ++ back) front.length
      = .ok (c.kind, c.data, front.length + (c.encode crc).length) := by
  set lengthBytes := toBigEndian 4 c.data.length with hlengthBytes
  set crcBytes := toBigEndian 4 (crc (c.kind ++ c.data)).toNat with hcrcBytes
  have hlengthBytes_length : lengthBytes.length = 4 := length_toBigEndian _ _
  have hcrcBytes_length : crcBytes.length = 4 := length_toBigEndian _ _
  have hencode : c.encode crc = lengthBytes ++ c.kind ++ c.data ++ crcBytes := rfl
  have hheader : slice (front ++ c.encode crc ++ back) front.length (front.length + 8)
      = some (lengthBytes ++ c.kind) := by
    have hslice := slice_append front (lengthBytes ++ c.kind) (c.data ++ crcBytes ++ back)
    rw [List.length_append, hlengthBytes_length, c.kind_length] at hslice
    rw [← hslice, hencode]
    simp only [List.append_assoc]
  have hchunk : slice (front ++ c.encode crc ++ back) front.length
      (front.length + 12 + c.data.length) = some (c.encode crc) := by
    have hslice := slice_append front (c.encode crc) back
    rwa [c.length_encode, ← Nat.add_assoc] at hslice
  have hnumber : ofBigEndian ((lengthBytes ++ c.kind).take 4) = c.data.length := by
    rw [List.take_left' hlengthBytes_length]
    exact ofBigEndian_toBigEndian c.data_length
  have hkind : ((c.encode crc).drop 4).take 4 = c.kind := by
    rw [hencode, List.append_assoc, List.append_assoc, List.drop_left' hlengthBytes_length,
      List.take_left' c.kind_length]
  have hfront : (lengthBytes ++ c.kind).length = 8 := by
    rw [List.length_append, hlengthBytes_length, c.kind_length]
  have hdata : ((c.encode crc).drop 8).take c.data.length = c.data := by
    rw [hencode, List.append_assoc, List.drop_left' hfront, List.take_left' rfl]
  have hbytes : ((c.encode crc).drop (8 + c.data.length)).take 4 = crcBytes := by
    have hlong : (lengthBytes ++ c.kind ++ c.data).length = 8 + c.data.length := by
      rw [List.length_append, hfront]
    rw [hencode, List.drop_left' hlong, List.take_of_length_le hcrcBytes_length.le]
  have hcheck : (crc (c.kind ++ c.data)).toNat = ofBigEndian crcBytes := by
    rw [hcrcBytes, ofBigEndian_toBigEndian]
    exact (crc (c.kind ++ c.data)).toNat_lt
  rw [readChunk, hheader]
  simp only [hnumber, require_of hsize, ok_bind, hchunk, hkind, hdata, hbytes, require_of hcheck]
  rw [c.length_encode, Nat.add_assoc]

/-- **What is read is an encoded chunk.** -/
theorem readChunk_eq_ok {png kind data : List UInt8} {offset next : ℕ}
    (h : readChunk crc png offset = .ok (kind, data, next)) :
    ∃ c : Chunk, c.kind = kind ∧ c.data = data ∧ next = offset + (c.encode crc).length
      ∧ next ≤ png.length ∧ png.drop offset = c.encode crc ++ png.drop next := by
  rw [readChunk] at h
  split at h
  · simp at h
  · next header hheader =>
    simp only [bind_eq_ok, require_eq_ok] at h
    obtain ⟨-, -, h⟩ := h
    split at h
    · simp at h
    · next chunk hchunk =>
      simp only [bind_eq_ok, require_eq_ok, Except.ok.injEq, Prod.mk.injEq] at h
      obtain ⟨-, hcrc, rfl, rfl, rfl⟩ := h
      set length := ofBigEndian (header.take 4) with hlength
      obtain ⟨hheader_length, -, -⟩ := slice_eq_some hheader
      obtain ⟨hchunk_length, hstop, hdrop⟩ := slice_eq_some hchunk
      have hstart : header.take 4 = chunk.take 4 :=
        take_eq_of_slice hheader hchunk (by omega) (by omega)
      have hlengthBytes : (chunk.take 4).length = 4 := by
        rw [List.length_take]
        omega
      have hkind : ((chunk.drop 4).take 4).length = 4 := by
        rw [List.length_take, List.length_drop]
        omega
      have hdata : ((chunk.drop 8).take length).length = length := by
        rw [List.length_take, List.length_drop]
        omega
      have hcrcBytes : ((chunk.drop (8 + length)).take 4).length = 4 := by
        rw [List.length_take, List.length_drop]
        omega
      have hsmall : length < 2 ^ 32 := by
        have hlt := ofBigEndian_lt (header.take 4)
        rw [hstart, hlengthBytes] at hlt
        rw [hlength, hstart]
        omega
      set kind := (chunk.drop 4).take 4
      set data := (chunk.drop 8).take length
      have hencode : toBigEndian 4 data.length ++ kind ++ data
          ++ toBigEndian 4 (crc (kind ++ data)).toNat = chunk := by
        have hfirst := toBigEndian_ofBigEndian (chunk.take 4)
        have hlast := toBigEndian_ofBigEndian ((chunk.drop (8 + length)).take 4)
        rw [hlengthBytes, ← hstart] at hfirst
        rw [hcrcBytes, ← hcrc] at hlast
        rw [hdata, hfirst, hlast, hstart]
        -- the four fields, one after the other
        have hrest : (chunk.drop (8 + length)).take 4 = chunk.drop (8 + length) := by
          apply List.take_of_length_le
          rw [List.length_drop]
          omega
        have hbody : data ++ chunk.drop (8 + length) = chunk.drop 8 := by
          rw [← List.drop_drop, List.take_append_drop]
        have htyped : kind ++ chunk.drop 8 = chunk.drop 4 := by
          have hsplit := List.take_append_drop 4 (chunk.drop 4)
          rwa [List.drop_drop] at hsplit
        rw [hrest, List.append_assoc, List.append_assoc, hbody, htyped, List.take_append_drop]
      refine ⟨⟨kind, data, hkind, hdata ▸ hsmall⟩, rfl, rfl, ?_, hstop, ?_⟩
      · rw [Chunk.encode, hencode]
        omega
      · rw [Chunk.encode, hencode]
        exact hdrop

/-! ## Credential data -/

/-- **What parses is the data of a credential chunk.** -/
theorem parseCredentialItxt_eq_ok {data text : List UInt8} :
    parseCredentialItxt data = .ok text
      ↔ data = credentialData text ∧ text.length ≤ maxCredentialSize := by
  have hkeyword : credentialKeyword.length = 19 := rfl
  simp only [parseCredentialItxt, bind_eq_ok, require_eq_ok, Except.ok.injEq, hkeyword]
  constructor
  · rintro ⟨-, ⟨hlength, hfirst, hsecond⟩, rfl⟩
    have hdata := (slice_eq_some hfirst).2.2
    have hrest := (slice_eq_some hsecond).2.2
    rw [List.drop_zero] at hdata
    refine ⟨?_, ?_⟩
    · rw [credentialData, List.append_assoc, ← hrest, ← hdata]
    · rw [List.length_drop]
      omega
  · rintro ⟨rfl, hsize⟩
    refine ⟨(), ⟨?_, ?_, ?_⟩, ?_⟩
    · simp only [credentialData, List.length_append, hkeyword, List.length_cons, List.length_nil]
      omega
    · exact slice_append [] credentialKeyword ([0, 0, 0, 0, 0] ++ text)
    · exact slice_append credentialKeyword [0, 0, 0, 0, 0] text
    · exact List.drop_left' rfl

theorem keyword_prefix_credentialData (credential : List UInt8) :
    credentialKeyword <+: credentialData credential := by
  rw [credentialData, List.append_assoc]
  exact List.prefix_append _ _

/-! ## Inserting -/

theorem findIend_chunks (crc : List UInt8 → UInt32) (front back : List UInt8) (chunks : List Chunk)
    (hkinds : ∀ c ∈ chunks, c.kind ≠ iend) (hsizes : ∀ c ∈ chunks, c.data.length ≤ maxPngSize)
    (turns : ℕ) :
    findIend crc (front ++ chunks.flatMap (Chunk.encode crc) ++ back) (chunks.length + turns)
        front.length
      = findIend crc (front ++ chunks.flatMap (Chunk.encode crc) ++ back) turns
        (front ++ chunks.flatMap (Chunk.encode crc)).length := by
  induction chunks generalizing front with
  | nil => simp
  | cons c chunks ih =>
    have hbytes : front ++ (c :: chunks).flatMap (Chunk.encode crc) ++ back
        = front ++ c.encode crc ++ (chunks.flatMap (Chunk.encode crc) ++ back) := by
      simp only [List.flatMap_cons, List.append_assoc]
    have hread := readChunk_encode crc c (hsizes c List.mem_cons_self) front
      (chunks.flatMap (Chunk.encode crc) ++ back)
    have hin : front.length < (front ++ c.encode crc
        ++ (chunks.flatMap (Chunk.encode crc) ++ back)).length := by
      simp only [List.length_append, c.length_encode]
      omega
    have hnext := ih (front ++ c.encode crc) (fun c hc ↦ hkinds c (List.mem_cons_of_mem _ hc))
      (fun c hc ↦ hsizes c (List.mem_cons_of_mem _ hc))
    rw [List.length_append] at hnext
    rw [hbytes, List.length_cons, Nat.add_right_comm, findIend, if_pos hin, hread, ok_bind]
    simp only [if_neg (hkinds c List.mem_cons_self)]
    rw [← List.append_assoc, hnext]
    simp only [List.flatMap_cons, List.length_append, Nat.add_assoc]

/-! ## Scanning -/

theorem Chunk.not_isCredential_of_iend {c : Chunk} (h : c.kind = iend) : ¬ c.IsCredential := by
  rintro ⟨hkind, -⟩
  rw [h] at hkind
  exact absurd hkind (by decide)

theorem scan_encode (crc : List UInt8 → UInt32) (c : Chunk) (hsize : c.data.length ≤ maxPngSize)
    (front back : List UInt8) (chunksLeft : ℕ) (credential : Option (List UInt8)) :
    scan crc (front ++ c.encode crc ++ back) (chunksLeft + 1) front.length credential
      = (do
        let credential ←
          if c.IsCredential then do
            let text ← parseCredentialItxt c.data
            require (credential = none) .invalidPng
            .ok (some text)
          else .ok credential
        if c.kind = iend then do
          require ((front ++ c.encode crc).length = (front ++ c.encode crc ++ back).length)
            .invalidPng
          .ok credential
        else
          scan crc (front ++ c.encode crc ++ back) chunksLeft (front ++ c.encode crc).length
            credential) := by
  have hin : front.length < (front ++ c.encode crc ++ back).length := by
    simp only [List.length_append, c.length_encode]
    omega
  rw [scan, if_pos hin]
  simp only [readChunk_encode crc c hsize, ok_bind]
  rw [@List.length_append _ front (c.encode crc)]
  rfl

theorem scan_chunks (crc : List UInt8 → UInt32) (front back : List UInt8) (chunks : List Chunk)
    (hkinds : ∀ c ∈ chunks, c.kind ≠ iend) (hplain : ∀ c ∈ chunks, ¬ c.IsCredential)
    (hsizes : ∀ c ∈ chunks, c.data.length ≤ maxPngSize)
    (chunksLeft : ℕ) (credential : Option (List UInt8)) :
    scan crc (front ++ chunks.flatMap (Chunk.encode crc) ++ back) (chunks.length + chunksLeft)
        front.length credential
      = scan crc (front ++ chunks.flatMap (Chunk.encode crc) ++ back) chunksLeft
        (front ++ chunks.flatMap (Chunk.encode crc)).length credential := by
  induction chunks generalizing front with
  | nil => simp
  | cons c chunks ih =>
    have hbytes : front ++ (c :: chunks).flatMap (Chunk.encode crc) ++ back
        = front ++ c.encode crc ++ (chunks.flatMap (Chunk.encode crc) ++ back) := by
      simp only [List.flatMap_cons, List.append_assoc]
    have hnext := ih (front ++ c.encode crc) (fun c hc ↦ hkinds c (List.mem_cons_of_mem _ hc))
      (fun c hc ↦ hplain c (List.mem_cons_of_mem _ hc))
      (fun c hc ↦ hsizes c (List.mem_cons_of_mem _ hc))
    rw [hbytes, List.length_cons, Nat.add_right_comm,
      scan_encode crc c (hsizes c List.mem_cons_self), if_neg (hplain c List.mem_cons_self),
        ok_bind]
    simp only [if_neg (hkinds c List.mem_cons_self)]
    rw [← List.append_assoc, hnext]
    simp only [List.flatMap_cons, List.append_assoc]

/-- What one turn of the scan can have done. -/
theorem scan_succ_eq_ok {png : List UInt8} {chunksLeft cursor : ℕ}
    {credential result : Option (List UInt8)}
    (h : scan crc png (chunksLeft + 1) cursor credential = .ok result) :
    ∃ (c : Chunk) (next : ℕ) (credential' : Option (List UInt8)),
      png.drop cursor = c.encode crc ++ png.drop next
        ∧ (¬ c.IsCredential ∧ credential' = credential
          ∨ c.IsCredential ∧ credential = none
            ∧ ∃ text, c.data = credentialData text ∧ credential' = some text)
        ∧ (c.kind = iend ∧ next = png.length ∧ result = credential'
          ∨ c.kind ≠ iend ∧ scan crc png chunksLeft next credential' = .ok result) := by
  have hrest {kind : List UInt8} {next : ℕ} {credential' : Option (List UInt8)}
      (h : (if kind = iend then do
          require (next = png.length) .invalidPng
          .ok credential'
        else scan crc png chunksLeft next credential') = .ok result) :
      kind = iend ∧ next = png.length ∧ result = credential'
        ∨ kind ≠ iend ∧ scan crc png chunksLeft next credential' = .ok result := by
    split_ifs at h with hkind
    · simp only [bind_eq_ok, require_eq_ok, Except.ok.injEq] at h
      obtain ⟨-, hend, rfl⟩ := h
      exact Or.inl ⟨hkind, hend, rfl⟩
    · exact Or.inr ⟨hkind, h⟩
  rw [scan] at h
  split at h
  · obtain ⟨⟨kind, data, next⟩, hread, h⟩ := bind_eq_ok.1 h
    obtain ⟨c, rfl, rfl, -, -, hdrop⟩ := readChunk_eq_ok hread
    by_cases hc : c.IsCredential
    · rw [Chunk.IsCredential] at hc
      simp only [if_pos hc, bind_eq_ok, require_eq_ok] at h
      obtain ⟨text, htext, -, hnone, credential', hsome, h⟩ := h
      obtain rfl := Except.ok.inj hsome
      exact ⟨c, next, some text, hdrop,
        Or.inr ⟨hc, hnone, text, (parseCredentialItxt_eq_ok.1 htext).1, rfl⟩, hrest h⟩
    · rw [Chunk.IsCredential] at hc
      simp only [if_neg hc, ok_bind] at h
      exact ⟨c, next, credential, hdrop, Or.inl ⟨hc, rfl⟩, hrest h⟩
  · simp at h

/-- **What is scanned is a stream**, with a credential chunk just when the scan returns a credential
that it did not have before. -/
theorem scan_eq_ok {png : List UInt8} {chunksLeft cursor : ℕ}
    {credential result : Option (List UInt8)}
    (h : scan crc png chunksLeft cursor credential = .ok result) :
    ∃ (chunks : List Chunk) (terminator : Chunk),
      (∀ c ∈ chunks, c.kind ≠ iend) ∧ terminator.kind = iend
        ∧ png.drop cursor = chunks.flatMap (Chunk.encode crc) ++ terminator.encode crc
        ∧ (chunks.filter (fun c ↦ c.IsCredential) = [] ∧ result = credential
          ∨ credential = none ∧ ∃ c text, chunks.filter (fun c ↦ c.IsCredential) = [c]
            ∧ c.data = credentialData text ∧ result = some text) := by
  induction chunksLeft generalizing cursor credential with
  | zero =>
    rw [scan] at h
    split_ifs at h
  | succ chunksLeft ih =>
    obtain ⟨c, next, credential', hdrop, hstep, h⟩ := scan_succ_eq_ok h
    obtain ⟨hkind, rfl, rfl⟩ | ⟨hkind, h⟩ := h
    · -- the terminator
      refine ⟨[], c, fun _ hc ↦ absurd hc List.not_mem_nil, hkind, ?_, ?_⟩
      · rw [hdrop, List.drop_length, List.append_nil]
        rfl
      · obtain ⟨-, rfl⟩ | ⟨hc, -⟩ := hstep
        · exact Or.inl ⟨rfl, rfl⟩
        · exact absurd hc (Chunk.not_isCredential_of_iend hkind)
    · -- a chunk before the terminator
      obtain ⟨chunks, terminator, hkinds, hterminator, hrest, hresult⟩ := ih h
      refine ⟨c :: chunks, terminator, ?_, hterminator, ?_, ?_⟩
      · intro c' hc'
        obtain rfl | hc' := List.mem_cons.1 hc'
        · exact hkind
        · exact hkinds c' hc'
      · rw [hdrop, hrest, List.flatMap_cons, List.append_assoc]
      · obtain ⟨hc, rfl⟩ | ⟨hc, hnone, text, hdata, rfl⟩ := hstep
        · rwa [List.filter_cons_of_neg (by simpa using hc)]
        · obtain ⟨hfilter, rfl⟩ | ⟨hsome, -⟩ := hresult
          · refine Or.inr ⟨hnone, c, text, ?_, hdata, rfl⟩
            rw [List.filter_cons_of_pos (by simpa using hc), hfilter]
          · exact absurd hsome (by simp)

/-! ## The round trip -/

theorem Stream.length_chunks_lt (crc : List UInt8 → UInt32) (s : Stream) :
    s.chunks.length < (s.encode crc).length := by
  have hflat (chunks : List Chunk) :
      chunks.length ≤ (chunks.flatMap (Chunk.encode crc)).length := by
    induction chunks with
    | nil => exact Nat.zero_le _
    | cons c chunks ih =>
      rw [List.flatMap_cons, List.length_append, c.length_encode, List.length_cons]
      omega
  have hchunks := hflat s.chunks
  simp only [encode, List.length_append, s.terminator.length_encode]
  omega

theorem Stream.data_length_le {s : Stream} {size : ℕ} (hsize : (s.encode crc).length ≤ size)
    {c : Chunk} (hc : c ∈ s.chunks ∨ c = s.terminator) : c.data.length ≤ size := by
  have hle : (c.encode crc).length ≤ (s.encode crc).length := by
    apply List.Sublist.length_le
    obtain hc | rfl := hc
    · apply List.Sublist.trans _ (List.sublist_append_left _ _)
      apply List.Sublist.trans _ (List.sublist_append_right _ _)
      exact List.sublist_flatten_of_mem (List.mem_map_of_mem hc)
    · exact List.sublist_append_right _ _
  rw [c.length_encode] at hle
  omega

theorem length_credentialData (credential : List UInt8) :
    (credentialData credential).length = 24 + credential.length := by
  rw [credentialData, List.length_append]
  rfl

/-- The chunk that is inserted. -/
def credentialChunk (credential : List UInt8) (h : credential.length ≤ maxCredentialSize) :
    Chunk where
  kind := itxt
  data := credentialData credential
  kind_length := rfl
  data_length := by
    rw [length_credentialData]
    rw [maxCredentialSize] at h
    omega

theorem isCredential_credentialChunk {credential : List UInt8}
    (h : credential.length ≤ maxCredentialSize) : (credentialChunk credential h).IsCredential :=
  ⟨rfl, keyword_prefix_credentialData credential⟩

/-- **Inserting a credential** puts its chunk before the terminator. -/
theorem insertCredentialChunk_encode (crc : List UInt8 → UInt32) (s : Stream)
    {credential : List UInt8}
    (hcredential : credential.length ≤ maxCredentialSize)
    (hsize : (s.encode crc).length ≤ maxPngSize) :
    insertCredentialChunk crc (s.encode crc) credential
      = .ok (pngSignature ++ s.chunks.flatMap (Chunk.encode crc)
        ++ (credentialChunk credential hcredential).encode crc ++ s.terminator.encode crc) := by
  obtain ⟨front, hfront⟩ : ∃ front, pngSignature ++ s.chunks.flatMap (Chunk.encode crc) = front :=
    ⟨_, rfl⟩
  have hencode : s.encode crc = front ++ s.terminator.encode crc := by
    rw [Stream.encode, hfront]
  have hfind : findIend crc (s.encode crc) (s.encode crc).length pngSignature.length
      = .ok (some front.length) := by
    obtain ⟨turns, hturns⟩ := Nat.exists_eq_add_of_lt (s.length_chunks_lt crc)
    have hskip := findIend_chunks crc pngSignature (s.terminator.encode crc) s.chunks
      s.chunks_kind (fun c hc ↦ Stream.data_length_le hsize (Or.inl hc)) (turns + 1)
    have hread := readChunk_encode crc s.terminator
      (Stream.data_length_le hsize (Or.inr rfl)) front []
    have hin : front.length < (front ++ s.terminator.encode crc).length := by
      rw [List.length_append, s.terminator.length_encode]
      omega
    rw [List.append_nil] at hread
    rw [hfront, ← hencode] at hskip
    rw [hturns, Nat.add_assoc, hskip, hencode, findIend, if_pos hin, hread, ok_bind]
    simp only [if_pos s.terminator_kind]
  have hchunk : encodeChunk crc itxt (credentialData credential)
      = .ok ((credentialChunk credential hcredential).encode crc) :=
    encodeChunk_eq crc (credentialChunk credential hcredential)
  rw [insertCredentialChunk, hfind, ok_bind]
  simp only [hchunk, ok_bind]
  rw [hencode, List.take_left, List.drop_left, hfront]

/-- **The scan finds the credential** that was inserted. -/
theorem scan_inserted (crc : List UInt8 → UInt32) (s : Stream) {credential : List UInt8}
    (hcredential : credential.length ≤ maxCredentialSize)
    (hplain : ∀ c ∈ s.chunks, ¬ c.IsCredential) (hcount : s.chunks.length + 1 < maxPngChunks)
    (hsize : (s.encode crc).length ≤ maxPngSize)
    (hdata : (credentialData credential).length ≤ maxPngSize) :
    scan crc (pngSignature ++ s.chunks.flatMap (Chunk.encode crc)
        ++ (credentialChunk credential hcredential).encode crc ++ s.terminator.encode crc)
      maxPngChunks pngSignature.length none = .ok (some credential) := by
  obtain ⟨rest, hrest⟩ : ∃ rest, maxPngChunks = s.chunks.length + (rest + 1 + 1) := by
    obtain ⟨rest, hrest⟩ := Nat.exists_eq_add_of_lt hcount
    exact ⟨rest, by omega⟩
  have hskip := scan_chunks crc pngSignature
    ((credentialChunk credential hcredential).encode crc ++ s.terminator.encode crc) s.chunks
    s.chunks_kind hplain (fun c hc ↦ Stream.data_length_le hsize (Or.inl hc)) (rest + 1 + 1) none
  obtain ⟨front, hfront⟩ : ∃ front, pngSignature ++ s.chunks.flatMap (Chunk.encode crc) = front :=
    ⟨_, rfl⟩
  have hparse : parseCredentialItxt (credentialChunk credential hcredential).data
      = .ok credential :=
    parseCredentialItxt_eq_ok.2 ⟨rfl, hcredential⟩
  have hterminator := scan_encode crc s.terminator
    (Stream.data_length_le hsize (Or.inr rfl))
    (front ++ (credentialChunk credential hcredential).encode crc) [] rest (some credential)
  rw [hfront, ← List.append_assoc, ← hrest] at hskip
  rw [List.append_nil, if_neg (Chunk.not_isCredential_of_iend s.terminator_kind), ok_bind]
    at hterminator
  simp only [if_pos s.terminator_kind, require_of, ok_bind] at hterminator
  -- the chunks of the stream, the inserted chunk, and the terminator
  rw [hfront, hskip, scan_encode crc _ hdata,
    if_pos (isCredential_credentialChunk hcredential), hparse]
  simp only [ok_bind, require_of]
  exact hterminator

/-- **Embedded credentials round-trip.** Inserting a credential into a stream without one adds a
chunk, and the scan of the result gives the credential back, whatever bytes it holds. Only a stream
with exactly one credential chunk gives a credential, and it is the one that the chunk carries. -/
theorem credential_embedding (crc : List UInt8 → UInt32) (decodes : List UInt8 → Bool) :
    (∀ (s : Stream) (credential : List UInt8), (∀ c ∈ s.chunks, ¬ c.IsCredential) →
      s.chunks.length + 1 < maxPngChunks → credential.length ≤ maxCredentialSize →
      (s.encode crc).length + (12 + (credentialData credential).length) ≤ maxPngSize →
      ∃ front chunk back, insertCredentialChunk crc (s.encode crc) credential
          = .ok (front ++ chunk ++ back)
        ∧ encodeChunk crc itxt (credentialData credential) = .ok chunk
        ∧ s.encode crc = front ++ back
        ∧ (decodes (front ++ chunk ++ back) = true →
          extract crc decodes (front ++ chunk ++ back) = .ok credential))
    ∧ ∀ png credential, extract crc decodes png = .ok credential →
      ∃ s : Stream, png = s.encode crc
        ∧ ∃ c, s.chunks.filter (fun c ↦ c.IsCredential) = [c]
          ∧ c.data = credentialData credential := by
  constructor
  · intro s credential hplain hcount hcredential hsize
    set chunk := credentialChunk credential hcredential
    have hinsert := insertCredentialChunk_encode crc s hcredential (by omega)
    have hchunk := encodeChunk_eq crc chunk
    refine ⟨_, chunk.encode crc, s.terminator.encode crc, hinsert, hchunk, rfl, fun hdecodes ↦ ?_⟩
    have hscan := scan_inserted crc s hcredential hplain hcount (by omega) (by omega)
    have hlength : (pngSignature ++ s.chunks.flatMap (Chunk.encode crc) ++ chunk.encode crc
        ++ s.terminator.encode crc).length ≤ maxPngSize := by
      have hchunk_length : (chunk.encode crc).length = 12 + (credentialData credential).length :=
        chunk.length_encode
      simp only [Stream.encode, List.length_append, hchunk_length] at hsize ⊢
      omega
    have hsignature : pngSignature <+: pngSignature ++ s.chunks.flatMap (Chunk.encode crc)
        ++ chunk.encode crc ++ s.terminator.encode crc := by
      simp only [List.append_assoc]
      exact List.prefix_append _ _
    rw [extract, require_of ⟨hlength, hsignature⟩, ok_bind, require_of hdecodes, ok_bind, hscan]
    rfl
  · intro png credential h
    simp only [extract, bind_eq_ok, require_eq_ok] at h
    obtain ⟨-, ⟨-, hsignature⟩, -, -, result, hscan, h⟩ := h
    cases result with
    | none => simp at h
    | some text =>
      obtain rfl := Except.ok.inj h
      obtain ⟨chunks, terminator, hkinds, hterminator, hdrop, hresult⟩ := scan_eq_ok hscan
      refine ⟨⟨chunks, terminator, hkinds, hterminator⟩, ?_, ?_⟩
      · obtain ⟨body, rfl⟩ := hsignature
        rw [List.drop_left] at hdrop
        rw [hdrop, Stream.encode, List.append_assoc]
      · obtain ⟨-, hnone⟩ | ⟨-, c, text', hfilter, hdata, hsome⟩ := hresult
        · exact absurd hnone (by simp)
        · obtain rfl := Option.some.inj hsome
          exact ⟨c, hfilter, hdata⟩

/-! ## A badge -/

def crc32Step (crc : UInt32) : UInt32 :=
  if crc &&& 1 = 1 then (crc >>> 1) ^^^ 0xEDB88320 else crc >>> 1

/-- The checksum of PNG files. -/
def crc32 (bytes : List UInt8) : UInt32 :=
  bytes.foldl (fun crc b ↦ crc32Step^[8] (crc ^^^ b.toUInt32)) 0xFFFFFFFF ^^^ 0xFFFFFFFF

/-- A black image of 512 by 512 pixels. -/
def sampleStream : Stream where
  chunks := [
    ⟨[73, 72, 68, 82], [0, 0, 2, 0, 0, 0, 2, 0, 1, 0, 0, 0, 0], rfl, by decide⟩,
    ⟨[73, 68, 65, 84], [120, 1, 237, 193, 1, 1, 0, 0, 0, 130, 160, 254, 175, 118, 72, 192]
      ++ List.replicate 32 0 ++ [206, 5, 130, 0, 0, 1], rfl, by decide⟩]
  terminator := ⟨iend, [], rfl, by decide⟩
  chunks_kind := by decide
  terminator_kind := rfl

/-- A credential whose bytes are those of a terminator chunk. -/
def sampleCredential : List UInt8 := [0, 0, 0, 0, 73, 69, 78, 68, 174, 66, 96, 130]

theorem credential_embedding_sample :
    (∃ front chunk back, insertCredentialChunk crc32 (sampleStream.encode crc32) sampleCredential
        = .ok (front ++ chunk ++ back)
      ∧ encodeChunk crc32 itxt (credentialData sampleCredential) = .ok chunk
      ∧ sampleStream.encode crc32 = front ++ back
      ∧ extract crc32 (fun _ ↦ true) (front ++ chunk ++ back) = .ok sampleCredential)
    ∧ ∃ (png : List UInt8) (s : Stream), extract crc32 (fun _ ↦ true) png = .ok sampleCredential
      ∧ png = s.encode crc32
      ∧ ∃ c, s.chunks.filter (fun c ↦ c.IsCredential) = [c]
        ∧ c.data = credentialData sampleCredential := by
  obtain ⟨hforward, hback⟩ := credential_embedding crc32 (fun _ ↦ true)
  obtain ⟨front, chunk, back, hinsert, hchunk, hstream, hextract⟩ :=
    hforward sampleStream sampleCredential (by decide) (by decide) (by decide) (by decide)
  obtain ⟨s, hs, hcredential⟩ := hback _ _ (hextract rfl)
  exact ⟨⟨front, chunk, back, hinsert, hchunk, hstream, hextract rfl⟩,
    _, s, hextract rfl, hs, hcredential⟩

end Ocg.Png
