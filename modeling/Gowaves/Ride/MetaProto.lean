import Gowaves.Ride.Meta
import Gowaves.GoLib.Protowire

/-!
# The protobuf codec of DApp metadata (`pkg/ride/meta/generated`)

A DApp script stores its metadata as the protobuf message `DAppMeta`, written by the generated
`MarshalVTStrict` and read by the generated `UnmarshalVT`.  The model instantiates the wire
format of `GoLib.Protowire` with the three message types of `dapp_meta.proto`:

* `DAppMeta_CallableFuncSignature` — field 1, the type bytes of one callable;
* `DAppMeta_CompactNameAndOriginalNamePair` — fields 1 and 2, an abbreviation;
* `DAppMeta` — field 1 the version, 2 the signatures, 3 the pairs, 4 the original names.

Each decoder is the field loop with a table (`signatureTable`, `pairTable`, `metaTable`), and
what a field does to the message is stated once more without bytes (`applyMetaField` and its
two companions): the byte-level loop refines that fold (`unmarshal_encodeFields`).

Results:
* `unmarshalVT_marshalVTStrict` — every message with a version in `0 … 2^31 - 1` is decoded
  back from its encoding;
* `convert_build` — `meta.Convert` undoes `meta.Build` up to function names, on the metadata
  that is `Canonical`: `Build` loses the function names, and `Convert` reads each type descriptor
  in one normal form, so only metadata already in that form comes back unchanged.
-/

set_option autoImplicit false

namespace Gowaves.Ride.Meta

open GoLib GoLib.Reader GoLib.Protowire

/-! ## `MarshalVTStrict` -/

/-- The fields of a `DAppMeta_CallableFuncSignature`: its type bytes, omitted when empty. -/
def signatureFields (types : List UInt8) : List WireField :=
  if types = [] then [] else [.bytes 1 types]

/-- The fields of a `DAppMeta_CompactNameAndOriginalNamePair`, each omitted when empty. -/
def pairFields (p : GoString × GoString) : List WireField :=
  (if p.1 = [] then [] else [.bytes 1 p.1]) ++ (if p.2 = [] then [] else [.bytes 2 p.2])

/-- The fields of a `DAppMeta` in the order `MarshalVTStrict` writes them: a zero version is
omitted, and the version is written as the `uint64` of the `int32`. -/
def PbDAppMeta.fields (m : PbDAppMeta) : List WireField :=
  (if m.version = 0 then [] else [.varint 1 (m.version % 2 ^ 64).toNat]) ++
    m.funcs.map (fun t => .bytes 2 (encodeFields (signatureFields t))) ++
    m.compactNameAndOriginalNamePairList.map (fun p => .bytes 3 (encodeFields (pairFields p))) ++
    m.originalNames.map (.bytes 4)

/-- `(*DAppMeta).MarshalVTStrict`. -/
def PbDAppMeta.marshalVTStrict (m : PbDAppMeta) : Bytes := encodeFields m.fields

/-! ## `UnmarshalVT` -/

/-- The field table of `(*DAppMeta_CallableFuncSignature).UnmarshalVT`. -/
def signatureTable (l : Nat) (num : Int) (wireType : Nat) : Option (FieldDecoder (List UInt8)) :=
  if num = 1 then some (lengthDelimitedField "Types" l (fun _ d => .ok d) wireType) else none

/-- `(*DAppMeta_CallableFuncSignature).UnmarshalVT`. -/
def unmarshalSignature (d : Bytes) : Outcome String (List UInt8) :=
  unmarshal "DAppMeta_CallableFuncSignature" signatureTable [] d

/-- The field table of `(*DAppMeta_CompactNameAndOriginalNamePair).UnmarshalVT`. -/
def pairTable (l : Nat) (num : Int) (wireType : Nat) :
    Option (FieldDecoder (GoString × GoString)) :=
  if num = 1 then some (lengthDelimitedField "CompactName" l (fun p d => .ok (d, p.2)) wireType)
  else if num = 2 then
    some (lengthDelimitedField "OriginalName" l (fun p d => .ok (p.1, d)) wireType)
  else none

/-- `(*DAppMeta_CompactNameAndOriginalNamePair).UnmarshalVT`. -/
def unmarshalPair (d : Bytes) : Outcome String (GoString × GoString) :=
  unmarshal "DAppMeta_CompactNameAndOriginalNamePair" pairTable ([], []) d

/-- The field table of `(*DAppMeta).UnmarshalVT`: the version keeps the low 32 bits of its
varint (`m.Version |= int32(b&0x7F) << shift`), the repeated fields append. -/
def metaTable (l : Nat) (num : Int) (wireType : Nat) : Option (FieldDecoder PbDAppMeta) :=
  if num = 1 then
    some (varintField "Version" (fun m v => { m with version := (Int32.ofNat v).toInt }) wireType)
  else if num = 2 then
    some (lengthDelimitedField "Funcs" l (fun m d => unmarshalSignature d >>= fun t =>
      .ok { m with funcs := m.funcs ++ [t] }) wireType)
  else if num = 3 then
    some (lengthDelimitedField "CompactNameAndOriginalNamePairList" l (fun m d =>
      unmarshalPair d >>= fun p =>
        .ok { m with compactNameAndOriginalNamePairList := m.compactNameAndOriginalNamePairList ++ [p] })
      wireType)
  else if num = 4 then
    some (lengthDelimitedField "OriginalNames" l (fun m d =>
      .ok { m with originalNames := m.originalNames ++ [d] }) wireType)
  else none

/-- `(*DAppMeta).UnmarshalVT` into `new(g.DAppMeta)`. -/
def PbDAppMeta.unmarshalVT (d : Bytes) : Outcome String PbDAppMeta :=
  unmarshal "DAppMeta" metaTable PbDAppMeta.empty d

/-! ## What each field does -/

/-- The effect of a field of a signature. -/
def applySignatureField (t : List UInt8) : WireField → Outcome String (List UInt8)
  | .bytes 1 d => .ok d
  | _ => .ok t

/-- The effect of a field of an abbreviation pair. -/
def applyPairField (p : GoString × GoString) : WireField → Outcome String (GoString × GoString)
  | .bytes 1 d => .ok (d, p.2)
  | .bytes 2 d => .ok (p.1, d)
  | _ => .ok p

/-- The effect of a field of a `DAppMeta`. -/
def applyMetaField (m : PbDAppMeta) : WireField → Outcome String PbDAppMeta
  | .varint 1 v => .ok { m with version := (Int32.ofNat v).toInt }
  | .bytes 2 d => unmarshalSignature d >>= fun t => .ok { m with funcs := m.funcs ++ [t] }
  | .bytes 3 d => unmarshalPair d >>= fun p =>
    .ok { m with compactNameAndOriginalNamePairList := m.compactNameAndOriginalNamePairList ++ [p] }
  | .bytes 4 d => .ok { m with originalNames := m.originalNames ++ [d] }
  | _ => .ok m

/-! ## Round trip of the messages -/

theorem unmarshalSignature_encode (t : List UInt8)
    (hl : (encodeFields (signatureFields t)).length < 2 ^ 63) :
    unmarshalSignature (encodeFields (signatureFields t)) = .ok t := by
  have hstep : ∀ f ∈ signatureFields t, ∀ m rest,
      (f.encode ++ rest).length ≤ (encodeFields (signatureFields t)).length →
      unmarshalStep "DAppMeta_CallableFuncSignature" (encodeFields (signatureFields t)).length
        (signatureTable (encodeFields (signatureFields t)).length) m (f.encode ++ rest) =
        applySignatureField m f >>= fun m' => .ok (m', rest) := by
    intro f hf m rest hlen
    have hf1 : f = .bytes 1 t := by
      unfold signatureFields at hf
      split at hf
      · cases hf
      · simpa using hf
    subst hf1
    have htable : signatureTable (encodeFields (signatureFields t)).length ((1 : Nat) : Int) 2 =
        some (lengthDelimitedField "Types" (encodeFields (signatureFields t)).length
          (fun _ d => .ok d) 2) := by
      simp [signatureTable]
    rw [unmarshalStep_bytes _ _ _ (by omega) (by omega) hl htable m t rest hlen]
    rfl
  rw [unmarshalSignature, unmarshal_encodeFields _ _ _ applySignatureField _ hstep]
  unfold signatureFields
  split
  · subst_vars; rfl
  · rfl

theorem unmarshalPair_encode (p : GoString × GoString)
    (hl : (encodeFields (pairFields p)).length < 2 ^ 63) :
    unmarshalPair (encodeFields (pairFields p)) = .ok p := by
  obtain ⟨a, b⟩ := p
  have hstep : ∀ f ∈ pairFields (a, b), ∀ m rest,
      (f.encode ++ rest).length ≤ (encodeFields (pairFields (a, b))).length →
      unmarshalStep "DAppMeta_CompactNameAndOriginalNamePair"
        (encodeFields (pairFields (a, b))).length
        (pairTable (encodeFields (pairFields (a, b))).length) m (f.encode ++ rest) =
        applyPairField m f >>= fun m' => .ok (m', rest) := by
    intro f hf m rest hlen
    have hf12 : f = .bytes 1 a ∨ f = .bytes 2 b := by
      simp only [pairFields, List.mem_append] at hf
      rcases hf with hf | hf
      · split at hf
        · cases hf
        · exact .inl (by simpa using hf)
      · split at hf
        · cases hf
        · exact .inr (by simpa using hf)
    have htable1 : pairTable (encodeFields (pairFields (a, b))).length ((1 : Nat) : Int) 2 =
        some (lengthDelimitedField "CompactName" (encodeFields (pairFields (a, b))).length
          (fun p d => .ok (d, p.2)) 2) := by
      simp [pairTable]
    have htable2 : pairTable (encodeFields (pairFields (a, b))).length ((2 : Nat) : Int) 2 =
        some (lengthDelimitedField "OriginalName" (encodeFields (pairFields (a, b))).length
          (fun p d => .ok (p.1, d)) 2) := by
      simp [pairTable]
    rcases hf12 with rfl | rfl
    · rw [unmarshalStep_bytes _ _ _ (by omega) (by omega) hl htable1 m a rest hlen]
      rfl
    · rw [unmarshalStep_bytes _ _ _ (by omega) (by omega) hl htable2 m b rest hlen]
      rfl
  rw [unmarshalPair, unmarshal_encodeFields _ _ _ applyPairField _ hstep]
  unfold pairFields
  by_cases ha : a = [] <;> by_cases hb : b = [] <;> simp [ha, hb, applyPairField]

theorem mem_fields {pb : PbDAppMeta} {f : WireField} (hf : f ∈ pb.fields) :
    (∃ v, f = .varint 1 v ∧ v < 2 ^ 64) ∨ (∃ d, f = .bytes 2 d) ∨ (∃ d, f = .bytes 3 d) ∨
      (∃ d, f = .bytes 4 d) := by
  simp only [PbDAppMeta.fields, List.mem_append, List.mem_map] at hf
  rcases hf with ((hv | ⟨t, -, rfl⟩) | ⟨p, -, rfl⟩) | ⟨s, -, rfl⟩
  · split at hv
    · cases hv
    · refine .inl ⟨_, by simpa using hv, ?_⟩
      have h1 : pb.version % 2 ^ 64 < 2 ^ 64 := Int.emod_lt_of_pos _ (by decide)
      omega
  · exact .inr (.inl ⟨_, rfl⟩)
  · exact .inr (.inr (.inl ⟨_, rfl⟩))
  · exact .inr (.inr (.inr ⟨_, rfl⟩))

theorem unmarshalStep_metaField (pb : PbDAppMeta) {l : Nat} (hl : l < 2 ^ 63) {f : WireField}
    (hf : f ∈ pb.fields) (m : PbDAppMeta) (rest : Bytes) (hlen : (f.encode ++ rest).length ≤ l) :
    unmarshalStep "DAppMeta" l (metaTable l) m (f.encode ++ rest) =
      applyMetaField m f >>= fun m' => .ok (m', rest) := by
  rcases mem_fields hf with ⟨v, rfl, hv⟩ | ⟨d, rfl⟩ | ⟨d, rfl⟩ | ⟨d, rfl⟩
  · have htable : metaTable l ((1 : Nat) : Int) 0 = some (varintField "Version"
        (fun m v => { m with version := (Int32.ofNat v).toInt }) 0) := by simp [metaTable]
    rw [unmarshalStep_varint _ _ _ (by omega) (by omega) htable m hv rest]
    rfl
  · have htable : metaTable l ((2 : Nat) : Int) 2 = some (lengthDelimitedField "Funcs" l (fun m d =>
        unmarshalSignature d >>= fun t => .ok { m with funcs := m.funcs ++ [t] }) 2) := by
      simp [metaTable]
    rw [unmarshalStep_bytes _ _ _ (by omega) (by omega) hl htable m d rest hlen]
    rfl
  · have htable : metaTable l ((3 : Nat) : Int) 2 = some (lengthDelimitedField "CompactNameAndOriginalNamePairList"
        l (fun m d => unmarshalPair d >>= fun p => .ok { m with compactNameAndOriginalNamePairList :=
          m.compactNameAndOriginalNamePairList ++ [p] }) 2) := by
      simp [metaTable]
    rw [unmarshalStep_bytes _ _ _ (by omega) (by omega) hl htable m d rest hlen]
    rfl
  · have htable : metaTable l ((4 : Nat) : Int) 2 = some (lengthDelimitedField "OriginalNames" l (fun m d =>
        .ok { m with originalNames := m.originalNames ++ [d] }) 2) := by
      simp [metaTable]
    rw [unmarshalStep_bytes _ _ _ (by omega) (by omega) hl htable m d rest hlen]
    rfl

theorem foldlM_funcs (ts : List (List UInt8))
    (hts : ∀ t ∈ ts, (encodeFields (signatureFields t)).length < 2 ^ 63) (m : PbDAppMeta) :
    (ts.map fun t => WireField.bytes 2 (encodeFields (signatureFields t))).foldlM applyMetaField m =
      .ok { m with funcs := m.funcs ++ ts } := by
  induction ts generalizing m with
  | nil => simp
  | cons t ts ih =>
    rw [List.map_cons, List.foldlM_cons]
    simp only [applyMetaField, unmarshalSignature_encode t (hts t (by simp))]
    rw [Outcome.bind_ok, Outcome.bind_ok, ih (fun t' ht' => hts t' (by simp [ht']))]
    simp

theorem foldlM_pairs (ps : List (GoString × GoString))
    (hps : ∀ p ∈ ps, (encodeFields (pairFields p)).length < 2 ^ 63) (m : PbDAppMeta) :
    (ps.map fun p => WireField.bytes 3 (encodeFields (pairFields p))).foldlM applyMetaField m =
      .ok { m with compactNameAndOriginalNamePairList :=
        m.compactNameAndOriginalNamePairList ++ ps } := by
  induction ps generalizing m with
  | nil => simp
  | cons p ps ih =>
    rw [List.map_cons, List.foldlM_cons]
    simp only [applyMetaField, unmarshalPair_encode p (hps p (by simp))]
    rw [Outcome.bind_ok, Outcome.bind_ok, ih (fun p' hp' => hps p' (by simp [hp']))]
    simp

theorem foldlM_names (ns : List GoString) (m : PbDAppMeta) :
    (ns.map (WireField.bytes 4)).foldlM applyMetaField m =
      .ok { m with originalNames := m.originalNames ++ ns } := by
  induction ns generalizing m with
  | nil => simp
  | cons n ns ih =>
    rw [List.map_cons, List.foldlM_cons]
    simp only [applyMetaField, Outcome.bind_ok]
    rw [ih]
    simp

theorem version_roundTrip {v : Int} (h0 : 0 ≤ v) (h : v < 2 ^ 31) :
    (Int32.ofNat (v % 2 ^ 64).toNat).toInt = v := by
  have hmod : v % 2 ^ 64 = v := Int.emod_eq_of_lt h0 (by omega)
  rw [hmod, Int32.toInt_ofNat_of_lt (by omega)]
  omega

/-- **Protobuf round trip**: a `DAppMeta` whose version is a non-negative `int32` is decoded
back from its encoding. -/
theorem unmarshalVT_marshalVTStrict (pb : PbDAppMeta) (hv : 0 ≤ pb.version ∧ pb.version < 2 ^ 31)
    (hl : pb.marshalVTStrict.length < 2 ^ 63) :
    PbDAppMeta.unmarshalVT pb.marshalVTStrict = .ok pb := by
  have hsub : ∀ f ∈ pb.fields, ∀ num d, f = .bytes num d → d.length < 2 ^ 63 := by
    intro f hf num d hfd
    have hl' : (encodeFields pb.fields).length < 2 ^ 63 := hl
    have := length_encode_le_of_mem hf
    subst hfd
    simp only [WireField.encode, List.length_append] at this
    omega
  rw [PbDAppMeta.unmarshalVT, PbDAppMeta.marshalVTStrict,
    unmarshal_encodeFields _ _ _ applyMetaField _
      (fun f hf m rest hlen => unmarshalStep_metaField pb hl hf m rest hlen)]
  simp only [PbDAppMeta.fields, List.foldlM_append]
  have hversion : (if pb.version = 0 then [] else [WireField.varint 1 (pb.version % 2 ^ 64).toNat]).foldlM
      applyMetaField PbDAppMeta.empty = .ok { PbDAppMeta.empty with version := pb.version } := by
    split
    · rename_i h
      simp [h, PbDAppMeta.empty]
    · simp only [List.foldlM_cons, List.foldlM_nil, applyMetaField, version_roundTrip hv.1 hv.2]
      rfl
  rw [hversion, Outcome.bind_ok,
    foldlM_funcs _ (fun t ht => hsub _ (by
      simp only [PbDAppMeta.fields, List.mem_append, List.mem_map]
      exact .inl (.inl (.inr ⟨t, ht, rfl⟩))) 2 _ rfl), Outcome.bind_ok,
    foldlM_pairs _ (fun p hp => hsub _ (by
      simp only [PbDAppMeta.fields, List.mem_append, List.mem_map]
      exact .inl (.inr ⟨p, hp, rfl⟩)) 3 _ rfl), Outcome.bind_ok,
    foldlM_names]
  cases pb
  simp [PbDAppMeta.empty]

/-! ## `meta.Convert` after `meta.Build` -/

/-- A type of meta version 1 in the form `convertTypesV1` reads back from its descriptor. -/
def MetaType.canonicalV1 : MetaType → Bool
  | .listType _ => false
  | t => 1 ≤ encodeType t && encodeType t ≤ 15 && parseUnion (encodeType t) == t

/-- A type of meta version 2 in the form `convertTypesV2` reads back from its descriptor. -/
def MetaType.canonicalV2 (t : MetaType) : Bool :=
  1 ≤ encodeType t && encodeType t ≤ 31 && parseList (encodeType t) == t

/-- Abbreviations as `convertAbbreviations` builds them, with one map entry per pair (so that
`buildAbbreviations` neither panics nor pads). -/
def Abbreviations.Canonical (a : Abbreviations) : Prop :=
  a.compact2original.length = a.pairs.length ∧
    a.compact2original = a.pairs.foldl (fun m p => GoMap.insert m p.1 p.2) []

/-- Metadata that `Convert` gives back from `Build` up to names: the empty metadata, or version
1 or 2 with canonical types and abbreviations. -/
def DApp.Canonical (m : DApp) : Prop :=
  m = DApp.empty ∨
    (m.version = 1 ∧ (∀ f ∈ m.functions, ∀ t ∈ f.arguments, t.canonicalV1) ∧
      m.abbreviations.Canonical) ∨
    (m.version = 2 ∧ (∀ f ∈ m.functions, ∀ t ∈ f.arguments, t.canonicalV2) ∧
      m.abbreviations.Canonical)

/-- The metadata without the function names, which the protobuf message does not carry. -/
def DApp.eraseNames (m : DApp) : DApp :=
  { m with functions := m.functions.map fun f => { f with name := [] } }

theorem not_lt_or_lt_of_le_of_le {x lo hi : UInt8} (h1 : lo ≤ x) (h2 : x ≤ hi) :
    ¬ (x < lo ∨ hi < x) := by
  rw [UInt8.le_iff_toNat_le] at h1 h2
  simp only [UInt8.lt_iff_toNat_lt]
  omega

theorem convertTypesV1_build {ts : List MetaType} (h : ∀ t ∈ ts, t.canonicalV1) :
    typeBuilderV1 ts = .ok (ts.map encodeType) ∧ convertTypesV1 (ts.map encodeType) = .ok ts := by
  constructor
  · refine mapM_eq_ok_map ts fun t ht => ?_
    have := h t ht
    cases t with
    | listType _ => simp [MetaType.canonicalV1] at this
    | simpleType _ | unionType _ => rfl
  · rw [convertTypesV1, List.mapM_map]
    have : ts.map id = ts := List.map_id ts
    conv_rhs => rw [← this]
    refine mapM_eq_ok_map ts fun t ht => ?_
    have hc := h t ht
    cases t with
    | listType _ => simp [MetaType.canonicalV1] at hc
    | simpleType _ | unionType _ =>
      simp only [MetaType.canonicalV1, Bool.and_eq_true, decide_eq_true_eq, beq_iff_eq] at hc
      obtain ⟨⟨h1, h15⟩, hp⟩ := hc
      simp only [Function.comp, id]
      rw [if_neg (not_lt_or_lt_of_le_of_le h1 h15), hp]

theorem convertTypesV2_build {ts : List MetaType} (h : ∀ t ∈ ts, t.canonicalV2) :
    convertTypesV2 (ts.map encodeType) = .ok ts := by
  rw [convertTypesV2, List.mapM_map]
  have : ts.map id = ts := List.map_id ts
  conv_rhs => rw [← this]
  refine mapM_eq_ok_map ts fun t ht => ?_
  have hc := h t ht
  simp only [MetaType.canonicalV2, Bool.and_eq_true, decide_eq_true_eq, beq_iff_eq] at hc
  obtain ⟨⟨h1, h31⟩, hp⟩ := hc
  simp only [Function.comp, id]
  rw [if_neg (not_lt_or_lt_of_le_of_le h1 h31), hp]

theorem convertAbbreviations_build {a : Abbreviations} (h : a.Canonical) :
    buildAbbreviations a = .ok (a.pairs, a.names) ∧ convertAbbreviations a.pairs a.names = a := by
  obtain ⟨hlen, hmap⟩ := h
  constructor
  · simp [buildAbbreviations, hlen]
  · cases a
    simp_all [convertAbbreviations]

/-- **`Convert` undoes `Build`** on canonical metadata, up to the function names; the version
of the message is 0, 1 or 2. -/
theorem convert_build {m : DApp} (h : m.Canonical) :
    ∃ pb, build m = .ok pb ∧ convert pb = .ok m.eraseNames ∧ 0 ≤ pb.version ∧ pb.version < 2 ^ 31 := by
  rcases h with rfl | ⟨hv, hts, ha⟩ | ⟨hv, hts, ha⟩
  · exact ⟨PbDAppMeta.empty, rfl, rfl, le_rfl, by decide⟩
  · obtain ⟨hbuild, hconv⟩ := convertAbbreviations_build ha
    have hfs : buildFunctions typeBuilderV1 m.functions =
        .ok (m.functions.map fun f => f.arguments.map encodeType) :=
      mapM_eq_ok_map _ fun f hf => (convertTypesV1_build (hts f hf)).1
    refine ⟨⟨1, m.functions.map (fun f => f.arguments.map encodeType), m.abbreviations.pairs,
      m.abbreviations.names⟩, ?_, ?_, by simp, by simp⟩
    · simp [build, hv, hfs, liftExcept, hbuild]
    · have hcf : convertFunctions convertTypesV1 (m.functions.map fun f => f.arguments.map encodeType) =
          .ok (m.functions.map fun f => { f with name := [] }) := by
        rw [convertFunctions, List.mapM_map]
        refine mapM_eq_ok_map _ fun f hf => ?_
        simp [(convertTypesV1_build (hts f hf)).2]
      simp only [convert, hcf, hconv]
      cases m
      simp_all [DApp.eraseNames]
  · obtain ⟨hbuild, hconv⟩ := convertAbbreviations_build ha
    refine ⟨⟨2, m.functions.map (fun f => f.arguments.map encodeType), m.abbreviations.pairs,
      m.abbreviations.names⟩, ?_, ?_, by simp, by simp⟩
    · have hfs : buildFunctions typeBuilderV2 m.functions =
          .ok (m.functions.map fun f => f.arguments.map encodeType) :=
        mapM_eq_ok_map _ fun f _ => rfl
      simp [build, hv, hfs, liftExcept, hbuild]
    · have hcf : convertFunctions convertTypesV2 (m.functions.map fun f => f.arguments.map encodeType) =
          .ok (m.functions.map fun f => { f with name := [] }) := by
        rw [convertFunctions, List.mapM_map]
        refine mapM_eq_ok_map _ fun f hf => ?_
        simp [convertTypesV2_build (hts f hf)]
      simp only [convert, hcf, hconv]
      cases m
      simp_all [DApp.eraseNames]

end Gowaves.Ride.Meta
