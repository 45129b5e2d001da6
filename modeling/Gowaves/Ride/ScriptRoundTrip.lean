import Gowaves.Ride.ScriptCodec

/-!
# The parser reads back what the serializer writes: scripts

`SerializeTree` writes a header, the body of the script and a checksum; `Parse` checks the
checksum, reads the header and runs the parser over the rest.  On top of the node results of
`ScriptCodec`:

* `parse_serializeTree` — `SerializeTree` writes every `ScriptSerializable` tree, and `Parse`
  reads the script back as the same tree, up to its digest and its block flag;
* `parse_acceptsTrailingBytes` — the converse fails: `Parse` accepts a script with a byte
  between its body and its checksum, and `SerializeTree` writes the tree it returns without
  that byte.

A tree is `ScriptSerializable` when its library version is one of `1` … `8` and it is either an
expression with a serializable verifier, or a DApp whose parts are

* a meta that `Convert` gives back from `Build` up to the function names, each signature named
  after the callable in its place (the names are not in the protobuf message: the parser takes
  them from the callables), with fewer than `2^31` protobuf bytes;
* global declarations (a `let` or a function, without a block), callables and an optional
  verifier (functions with an invocation parameter), fewer than `2^31` of each.

The parser's last step reads its state (the block flag) into the tree, so a whole script is
read with `ReadsSuch`, which fixes a property of the value read instead of the value.
-/

set_option autoImplicit false

namespace Gowaves.Ride.Serialization

open GoLib GoLib.Reader Gowaves.Ride.Serialization.Parser

/-! ## Well-formed scripts -/

/-- A global declaration of a DApp that the parser reads back: a `let` or a function, without
a block, a `NewBlock` flag or an invocation parameter. -/
inductive GlobalDeclaration : Node → Prop
  | assignment {name : GoString} {e : Node} (h : name.length < 2 ^ 31) :
      Serializable e → GlobalDeclaration (.assignmentNode name e none false)
  | function {name : GoString} {args : List GoString} {body : Node} (hn : name.length < 2 ^ 31)
      (ha : args.length < 2 ^ 31) (has : ∀ a ∈ args, a.length < 2 ^ 31) :
      Serializable body → GlobalDeclaration (.functionDeclarationNode name args body none [])

/-- A callable or a verifier that the parser reads back: a function without a block, with its
invocation parameter. -/
inductive Callable : Node → Prop
  | mk {name : GoString} {args : List GoString} {body : Node} {ip : GoString}
      (hip : ip.length < 2 ^ 31) (hn : name.length < 2 ^ 31) (ha : args.length < 2 ^ 31)
      (has : ∀ a ∈ args, a.length < 2 ^ 31) :
      Serializable body → Callable (.functionDeclarationNode name args body none ip)

/-- An expression script that the parser reads back: a serializable verifier and no DApp
parts. -/
structure ExpressionSerializable (t : Tree) : Prop where
  dAppMeta : t.dAppMeta = Meta.DApp.empty
  declarations : t.declarations = []
  functions : t.functions = []
  verifier : ∃ v, t.verifier = some v ∧ Serializable v

/-- A DApp that the parser reads back. -/
structure DAppSerializable (t : Tree) : Prop where
  dAppMeta : t.dAppMeta.Canonical
  metaNames : t.dAppMeta.functions.map (·.name) <+: t.functions.map callableName
  metaSize : ∀ pb, Meta.build t.dAppMeta = .ok pb → pb.marshalVTStrict.length < 2 ^ 31
  declarationsCount : t.declarations.length < 2 ^ 31
  declarations : ∀ d ∈ t.declarations, GlobalDeclaration d
  functionsCount : t.functions.length < 2 ^ 31
  functions : ∀ f ∈ t.functions, Callable f
  verifier : ∀ v, t.verifier = some v → Callable v

/-- A script tree that `SerializeTree` writes and `Parse` reads back. -/
structure ScriptSerializable (t : Tree) : Prop where
  libVersion : 1 ≤ t.libVersion ∧ t.libVersion ≤ 8
  content : (t.contentType = contentTypeExpression ∧ ExpressionSerializable t) ∨
    (t.contentType = contentTypeApplication ∧ DAppSerializable t)

/-! ## Reading a value with a property -/

/-- `p` reads from the front `bs` of its input a value with property `P`, and leaves the rest. -/
def ReadsSuch {α : Type} (p : Parser α) (P : α → Prop) (bs : Bytes) : Prop :=
  ∀ rest s, ∃ a s', p ⟨bs ++ rest, s⟩ = (.ok a, ⟨rest, s'⟩) ∧ P a

theorem Reads.bindSuch {α β : Type} {p : Parser α} {f : α → Parser β} {a : α} {P : β → Prop}
    {bs₁ bs₂ : Bytes} (h₁ : Reads p a bs₁) (h₂ : ReadsSuch (f a) P bs₂) :
    ReadsSuch (p >>= f) P (bs₁ ++ bs₂) := by
  intro rest s
  obtain ⟨s₁, e₁⟩ := h₁ (bs₂ ++ rest) s
  obtain ⟨b, s₂, e₂, hb⟩ := h₂ rest s₁
  exact ⟨b, s₂, by rw [List.append_assoc, StOutcome.bind_run_ok e₁, e₂], hb⟩

theorem ReadsSuch.mono {α : Type} {p : Parser α} {P Q : α → Prop} {bs : Bytes}
    (h : ReadsSuch p P bs) (hPQ : ∀ a, P a → Q a) : ReadsSuch p Q bs := by
  intro rest s
  obtain ⟨a, s', e, ha⟩ := h rest s
  exact ⟨a, s', e, hPQ a ha⟩

theorem readsSuch_get {α : Type} (g : ParserState → α) :
    ReadsSuch (StOutcome.get >>= fun st => pure (g st)) (fun a => ∃ st, a = g st) [] :=
  fun rest s => ⟨g ⟨rest, s⟩, s, rfl, ⟨rest, s⟩, rfl⟩

theorem reads_lift {α : Type} {x : Outcome GoError α} {a : α} (h : x = .ok a) :
    Reads (StOutcome.lift x) a [] :=
  fun _ s => ⟨s, by rw [StOutcome.lift_run, h]; rfl⟩

/-! ## The parts of a DApp -/

theorem writeMeta_reads (m : Mode) {dm : Meta.DApp} (hc : dm.Canonical)
    (hs : ∀ pb, Meta.build dm = .ok pb → pb.marshalVTStrict.length < 2 ^ 31) :
    ∃ bm, writeMeta m dm = .ok bm ∧ Reads (readMeta m) dm.eraseNames bm := by
  obtain ⟨pb, hb, hconv, hv⟩ := Meta.convert_build hc
  have hlen := hs pb hb
  have hdec : Reads (StOutcome.lift (Meta.PbDAppMeta.unmarshalVT pb.marshalVTStrict) >>= fun pb =>
      StOutcome.lift (Meta.liftExcept (Meta.convert pb))) dm.eraseNames [] :=
    (reads_lift (Meta.unmarshalVT_marshalVTStrict pb hv (by omega))).bind_nil
      (reads_lift (by rw [hconv]; rfl))
  cases m with
  | v1 =>
    refine ⟨writeUint32 .v1 (UInt32.ofNat 0) ++ (writeBytes .v1 pb.marshalVTStrict ++ []),
      by simp [writeMeta, hb], ?_⟩
    refine (@reads_readInt .v1 0 (by decide)).bind ((reads_readBytes .v1 hlen).bind ?_)
    show Reads (if _ then _ else _) _ []
    rw [if_neg (by decide)]
    exact hdec
  | v2 =>
    refine ⟨[] ++ (writeBytes .v2 pb.marshalVTStrict ++ []), by simp [writeMeta, hb], ?_⟩
    refine (Reads.pure 0).bind ((reads_readBytes .v2 hlen).bind ?_)
    show Reads (if _ then _ else _) _ []
    rw [if_neg (by decide)]
    exact hdec

theorem writeDeclaration_reads (m : Mode) {d : Node} (hd : GlobalDeclaration d) :
    ∃ bd, writeDeclaration m d = .ok bd ∧
      ∀ fuel, bd.length < fuel → Reads (readDeclaration m fuel) d bd := by
  cases hd with
  | @assignment name e h he =>
    obtain ⟨be, hbe⟩ := walk_ok m he
    refine ⟨declarationTypeLet :: writeString m name ++ be, by simp [writeDeclaration, hbe],
      fun fuel hlen => ?_⟩
    simp only [List.length_cons, List.length_append] at hlen
    exact reads_declarationLet m h (parseNext_walk m fuel e be he hbe (by omega))
  | @function name args body hn ha has hbody =>
    obtain ⟨bb, hbb⟩ := walk_ok m hbody
    refine ⟨functionDeclarationBytes m name args bb, by simp [writeDeclaration, hbb],
      fun fuel hlen => ?_⟩
    simp only [functionDeclarationBytes, List.length_cons, List.length_append] at hlen
    exact reads_declarationFunction m hn ha has (parseNext_walk m fuel body bb hbody hbb (by omega))

theorem writeCallable_reads (m : Mode) {f : Node} (hf : Callable f) :
    ∃ bf, writeCallable m f = .ok bf ∧
      ∀ fuel, bf.length < fuel → Reads (readCallable m fuel) f bf := by
  cases hf with
  | @mk name args body ip hip hn ha has hbody =>
    obtain ⟨bb, hbb⟩ := walk_ok m hbody
    refine ⟨writeString m ip ++ functionDeclarationBytes m name args bb,
      by simp [writeCallable, writeFunction, hbb], fun fuel hlen => ?_⟩
    simp only [functionDeclarationBytes, List.length_cons, List.length_append] at hlen
    have hd := reads_declarationFunction m hn ha has
      (parseNext_walk m fuel body bb hbody hbb (by omega))
    exact (reads_readString m hip).bind (hd.bind_nil (Reads.pure _))

theorem mapM_reads {p : Nat → Parser Node} {w : Node → Outcome GoError Bytes}
    {P : Node → Prop} {ns : List Node} (hl : ns.length < 2 ^ 31)
    (hw : ∀ n, P n → ∃ b, w n = .ok b ∧ ∀ fuel, b.length < fuel → Reads (p fuel) n b)
    (hp : ∀ n ∈ ns, P n) :
    ∃ bss, ns.mapM w = .ok bss ∧ ∀ fuel, bss.flatten.length < fuel →
      Reads (readCounted (Int32.ofNat ns.length) (p fuel)) ns bss.flatten := by
  obtain ⟨bss, hbss, hall⟩ := Outcome.mapM_ok fun n hn => hw n (hp n hn)
  exact ⟨bss, hbss, fun fuel hlen =>
    reads_readCounted hl (forall₂_of_flatten_length_lt (fun _ _ h => h fuel) hall hlen)⟩

theorem writeVerifier_reads (m : Mode) {v : Option Node} (hv : ∀ c, v = some c → Callable c) :
    ∃ k bc, k < 2 ^ 31 ∧ writeVerifier m v = .ok (writeUint32 m (UInt32.ofNat k) ++ bc) ∧
      ∀ fuel, bc.length < fuel → ∀ {β : Type} (f : Option Node → Parser β) (P : β → Prop)
        (bs : Bytes), ReadsSuch (f v) P bs →
        ReadsSuch (if Int32.ofNat k ≠ 0 then some <$> readCallable m fuel >>= f
          else pure none >>= f) P (bc ++ bs) := by
  cases v with
  | none =>
    refine ⟨0, [], by decide, by rw [List.append_nil]; rfl, fun fuel _ β f P bs hf => ?_⟩
    rw [if_neg (by decide)]
    exact (Reads.pure none).bindSuch hf
  | some c =>
    have hc := hv c rfl
    obtain ⟨bf, hw, hr⟩ := writeCallable_reads m hc
    refine ⟨1, bf, by decide, ?_, fun fuel hlen β f P bs hf => ?_⟩
    · cases hc
      simp only [writeCallable] at hw
      simp only [writeVerifier, hw]
      rfl
    · rw [if_pos (by decide)]
      exact ((hr fuel hlen).map some).bindSuch hf

/-! ## Names of the signatures -/

theorem setNames_eraseNames : ∀ (fs : List Meta.Function) (ns : List GoString),
    fs.map (·.name) <+: ns → Meta.setNames (fs.map fun f => { f with name := [] }) ns = fs
  | [], [], _ => rfl
  | [], _ :: _, _ => rfl
  | _ :: _, [], h => absurd (List.IsPrefix.length_le h) (by simp)
  | f :: fs, n :: ns, h => by
    obtain ⟨rfl, hrest⟩ := List.cons_prefix_cons.mp h
    simp [Meta.setNames, setNames_eraseNames fs ns hrest]

theorem setNames_eraseNames_meta {dm : Meta.DApp} {ns : List GoString}
    (h : dm.functions.map (·.name) <+: ns) :
    { dm.eraseNames with functions := Meta.setNames dm.eraseNames.functions ns } = dm := by
  rw [Meta.DApp.eraseNames]
  dsimp only
  rw [setNames_eraseNames _ _ h]

/-! ## Bodies -/

theorem expressionBody_reads (m : Mode) {t : Tree} (ht : ExpressionSerializable t) :
    ∃ bv, walkBlock m t.verifier = .ok bv ∧ ∀ fuel id, bv.length < fuel →
      ReadsSuch (parseExpression m fuel ⟨t.contentType, t.libVersion⟩ id)
        (fun tree => ∃ h, tree = { t with digest := id.toList, hasBlockV2 := h }) bv := by
  obtain ⟨v, hv, hs⟩ := ht.verifier
  obtain ⟨bv, hbv⟩ := walk_ok m hs
  refine ⟨bv, by rw [hv]; exact hbv, fun fuel id hlen => ?_⟩
  rw [← List.append_nil bv]
  refine ((parseNext_walk m fuel v bv hs hbv hlen).bindSuch (readsSuch_get _)).mono ?_
  rintro _ ⟨st, rfl⟩
  refine ⟨st.seenBlockV2, ?_⟩
  obtain ⟨digest, ct, lv, flag, dm, ds, fs, verifier⟩ := t
  obtain ⟨hdm, hds, hfs, -⟩ := ht
  simp only at hdm hds hfs hv
  subst hdm hds hfs hv
  rfl

theorem dAppBody_reads (m : Mode) {t : Tree} (ht : DAppSerializable t) :
    ∃ bm bd bf bv, writeMeta m t.dAppMeta = .ok bm ∧
      writeDeclarations m t.declarations = .ok bd ∧ writeFunctions m t.functions = .ok bf ∧
      writeVerifier m t.verifier = .ok bv ∧ ∀ fuel id, (bm ++ bd ++ bf ++ bv).length < fuel →
        ReadsSuch (parseDApp m fuel ⟨t.contentType, t.libVersion⟩ id)
          (fun tree => ∃ h, tree = { t with digest := id.toList, hasBlockV2 := h })
          (bm ++ bd ++ bf ++ bv) := by
  obtain ⟨bm, hwm, hm⟩ := writeMeta_reads m ht.dAppMeta ht.metaSize
  obtain ⟨dss, hwd, hd⟩ := mapM_reads ht.declarationsCount (fun _ => writeDeclaration_reads m)
    ht.declarations
  obtain ⟨fss, hwf, hf⟩ := mapM_reads ht.functionsCount (fun _ => writeCallable_reads m)
    ht.functions
  obtain ⟨k, bc, hk, hwv, hv⟩ := writeVerifier_reads m ht.verifier
  refine ⟨bm, writeUint32 m (UInt32.ofNat t.declarations.length) ++ dss.flatten,
    writeUint32 m (UInt32.ofNat t.functions.length) ++ fss.flatten, _, hwm,
    by simp [writeDeclarations, hwd], by simp [writeFunctions, hwf], hwv, fun fuel id hlen => ?_⟩
  simp only [List.length_append] at hlen
  rw [show bm ++ (writeUint32 m (UInt32.ofNat t.declarations.length) ++ dss.flatten) ++
      (writeUint32 m (UInt32.ofNat t.functions.length) ++ fss.flatten) ++
      (writeUint32 m (UInt32.ofNat k) ++ bc) =
    bm ++ (writeUint32 m (UInt32.ofNat t.declarations.length) ++ (dss.flatten ++
      (writeUint32 m (UInt32.ofNat t.functions.length) ++ (fss.flatten ++
      (writeUint32 m (UInt32.ofNat k) ++ (bc ++ [])))))) by simp]
  refine hm.bindSuch ?_
  refine (reads_readInt m ht.declarationsCount).bindSuch ?_
  refine (hd fuel (by omega)).bindSuch ?_
  refine (reads_readInt m ht.functionsCount).bindSuch ?_
  refine (hf fuel (by omega)).bindSuch ?_
  refine (reads_readInt m hk).bindSuch ?_
  show ReadsSuch (if _ then _ else _) _ _
  refine hv fuel (by omega) _ _ [] ((readsSuch_get _).mono ?_)
  rintro _ ⟨st, rfl⟩
  refine ⟨st.seenBlockV2, ?_⟩
  have hmeta := setNames_eraseNames_meta ht.metaNames
  obtain ⟨digest, ct, lv, flag, dm, ds, fs, verifier⟩ := t
  simp only at hmeta ⊢
  rw [hmeta]
  rfl

/-! ## Headers and the checksum -/

theorem modeOf_eq_v1 {lv : UInt8} : modeOf lv = .v1 ↔ lv < libV6 := by
  unfold modeOf
  split <;> simp_all

theorem modeOf_eq_v2 {lv : UInt8} : modeOf lv = .v2 ↔ ¬ lv < libV6 := by
  unfold modeOf
  split <;> simp_all

theorem parseHeader_v1DApp {lv : UInt8} (h1 : 1 ≤ lv) (h8 : lv ≤ 8) (rest : Bytes) :
    parseHeader ([0, contentTypeApplication, lv] ++ rest) =
      .ok (⟨contentTypeApplication, lv⟩, .v1, rest) := by
  have h0 : (0 : UInt8) < libV6 := by decide
  have hc : newContentType contentTypeApplication = .ok contentTypeApplication := rfl
  have hv : newLibraryVersion lv = .ok lv := if_pos ⟨h1, h8⟩
  simp [parseHeader, h0, hc, hv]

theorem parseHeader_v1Expression {lv : UInt8} (h1 : 1 ≤ lv) (h6 : lv < libV6) (rest : Bytes) :
    parseHeader ([lv] ++ rest) = .ok (⟨contentTypeExpression, lv⟩, .v1, rest) := by
  have h0 : lv ≠ 0 := by
    rintro rfl
    exact absurd h1 (by decide)
  simp [parseHeader, h6, h0]

theorem parseHeader_v2 {lv ct : UInt8} (h6 : ¬ lv < libV6) (h8 : lv ≤ 8)
    (hct : ct = contentTypeExpression ∨ ct = contentTypeApplication) (rest : Bytes) :
    parseHeader ([lv, ct] ++ rest) = .ok (⟨ct, lv⟩, .v2, rest) := by
  have h1 : 1 ≤ lv := by
    rw [UInt8.not_lt] at h6
    exact UInt8.le_trans (by decide) h6
  have hv : newLibraryVersion lv = .ok lv := if_pos ⟨h1, h8⟩
  have hc : newContentType ct = .ok ct := if_pos hct
  simp [parseHeader, h6, hv, hc]

theorem verifyCheckSum_append (secureHash : Bytes → Digest) {body : Bytes} (hb : body ≠ []) :
    verifyCheckSum secureHash (body ++ (secureHash body).toList.take 4) = .ok true := by
  have hlen : ((body ++ (secureHash body).toList.take 4).length : Int) - 4 = body.length := by
    simp
  simp only [verifyCheckSum, hlen]
  simp [hb]

/-! ## Scripts -/

theorem serializeBody_reads {t : Tree} (ht : ScriptSerializable t) :
    ∃ hb bs, hb ≠ [] ∧ (if t.isDApp then serializeDApp (modeOf t.libVersion) t
        else serializeScript (modeOf t.libVersion) t) = .ok (hb ++ bs) ∧
      (∀ rest, parseHeader (hb ++ rest) =
        .ok (⟨t.contentType, t.libVersion⟩, modeOf t.libVersion, rest)) ∧
      ∀ fuel id, bs.length < fuel →
        ReadsSuch (Parser.parse (modeOf t.libVersion) fuel ⟨t.contentType, t.libVersion⟩ id)
          (fun tree => ∃ h, tree = { t with digest := id.toList, hasBlockV2 := h }) bs := by
  obtain ⟨⟨h1, h8⟩, hcontent⟩ := ht
  generalize hm : modeOf t.libVersion = m
  rcases hcontent with ⟨hct, he⟩ | ⟨hct, hd⟩
  · have hdapp : t.isDApp = false := by rw [Tree.isDApp, hct]; rfl
    obtain ⟨bv, hwv, hread⟩ := expressionBody_reads m he
    have hbody : ∀ fuel id, bv.length < fuel →
        ReadsSuch (Parser.parse m fuel ⟨t.contentType, t.libVersion⟩ id)
          (fun tree => ∃ h, tree = { t with digest := id.toList, hasBlockV2 := h }) bv := by
      intro fuel id hlen
      rw [Parser.parse, if_pos hct]
      exact hread fuel id hlen
    cases m with
    | v1 =>
      refine ⟨[t.libVersion], bv, by simp, by simp [hdapp, serializeScript, hwv],
        fun rest => ?_, hbody⟩
      rw [hct]
      exact parseHeader_v1Expression h1 (modeOf_eq_v1.mp hm) rest
    | v2 =>
      exact ⟨[t.libVersion, t.contentType], bv, by simp, by simp [hdapp, serializeScript, hwv],
        parseHeader_v2 (modeOf_eq_v2.mp hm) h8 (.inl hct), hbody⟩
  · have hdapp : t.isDApp = true := by rw [Tree.isDApp, hct]; rfl
    have hne : t.contentType ≠ contentTypeExpression := by rw [hct]; decide
    obtain ⟨bm, bd, bf, bv, hwm, hwd, hwf, hwv, hread⟩ := dAppBody_reads m hd
    have hbody : ∀ fuel id, (bm ++ bd ++ bf ++ bv).length < fuel →
        ReadsSuch (Parser.parse m fuel ⟨t.contentType, t.libVersion⟩ id)
          (fun tree => ∃ h, tree = { t with digest := id.toList, hasBlockV2 := h })
          (bm ++ bd ++ bf ++ bv) := by
      intro fuel id hlen
      rw [Parser.parse, if_neg hne, if_pos hct]
      exact hread fuel id hlen
    cases m with
    | v1 =>
      refine ⟨[0, t.contentType, t.libVersion], bm ++ bd ++ bf ++ bv, by simp,
        by simp [hdapp, serializeDApp, hwm, hwd, hwf, hwv], fun rest => ?_, hbody⟩
      rw [hct]
      exact parseHeader_v1DApp h1 h8 rest
    | v2 =>
      exact ⟨[t.libVersion, t.contentType], bm ++ bd ++ bf ++ bv, by simp,
        by simp [hdapp, serializeDApp, hwm, hwd, hwf, hwv],
        parseHeader_v2 (modeOf_eq_v2.mp hm) h8 (.inr hct), hbody⟩

theorem serialize_eq_ok {secureHash : Bytes → Digest} {m : Mode} {t : Tree} {body : Bytes}
    (h : (if t.isDApp then serializeDApp m t else serializeScript m t) = .ok body) :
    serialize secureHash m t = .ok (body ++ (secureHash body).toList.take 4) := by
  unfold serialize
  split
  · next hd =>
    rw [if_pos hd] at h
    rw [h]
    rfl
  · next hd =>
    rw [if_neg hd] at h
    rw [h]
    rfl

/-- **`Parse` undoes `SerializeTree`**: the serializer writes every `ScriptSerializable` tree,
and the parser reads the script back as the same tree, with the `sha256` of the script as its
digest and the block flag the parser saw. -/
theorem parse_serializeTree (secureHash sha256 : Bytes → Digest) {t : Tree}
    (ht : ScriptSerializable t) :
    ∃ script, serializeTree secureHash t = .ok script ∧
      ∃ h, parse secureHash sha256 script =
        .ok { t with digest := (sha256 script).toList, hasBlockV2 := h } := by
  obtain ⟨hb, bs, hne, hbody, hhead, hread⟩ := serializeBody_reads ht
  set cs := (secureHash (hb ++ bs)).toList.take 4 with hcs
  refine ⟨hb ++ bs ++ cs, serialize_eq_ok hbody, ?_⟩
  have hlen : bs.length < (hb ++ bs ++ cs).length := by
    have := List.length_pos_of_ne_nil hne
    simp only [List.length_append]
    omega
  obtain ⟨tree, s', hrun, h, rfl⟩ :=
    hread (hb ++ bs ++ cs).length (sha256 (hb ++ bs ++ cs)) hlen cs false
  refine ⟨h, ?_⟩
  have hsum : verifyCheckSum secureHash (hb ++ bs ++ cs) = .ok true :=
    verifyCheckSum_append secureHash (by simp [hne])
  have hhdr : parseHeader (hb ++ bs ++ cs) =
      .ok (⟨t.contentType, t.libVersion⟩, modeOf t.libVersion, bs ++ cs) := by
    rw [List.append_assoc]
    exact hhead _
  simp only [parse, hsum, hhdr, hrun]

/-- A hash function for the examples; the results hold for every one. -/
def zeroHash (_ : Bytes) : Digest := Vector.replicate 32 0

/-- A version 6 DApp with a global `let x = 1`, a callable `call()` that returns `true`, its
meta, and no verifier. -/
def callDApp : Tree :=
  { Tree.new contentTypeApplication 6 with
    dAppMeta := ⟨2, [⟨ascii "call", []⟩], Meta.Abbreviations.empty⟩
    declarations := [.assignmentNode (ascii "x") (.longNode 1) none false]
    functions := [.functionDeclarationNode (ascii "call") [] (.booleanNode true) none (ascii "i")] }

theorem parse_serializeTree_callDApp :
    ScriptSerializable callDApp ∧ ∃ script, serializeTree zeroHash callDApp = .ok script ∧
      ∃ h, parse zeroHash zeroHash script =
        .ok { callDApp with digest := (zeroHash script).toList, hasBlockV2 := h } := by
  have hs : ScriptSerializable callDApp := by
    refine ⟨⟨by decide, by decide⟩, .inr ⟨rfl, ?_⟩⟩
    refine ⟨.inr (.inr ⟨rfl, by decide, rfl, rfl⟩), by decide, fun pb hpb => ?_, by decide,
      ?_, by decide, ?_, by simp [callDApp, Tree.new]⟩
    · have hb : Meta.build callDApp.dAppMeta = .ok ⟨2, [[]], [], []⟩ := rfl
      rw [hb] at hpb
      cases hpb
      simp [Meta.PbDAppMeta.marshalVTStrict, Meta.PbDAppMeta.fields, Meta.signatureFields,
        Protowire.encodeFields, Protowire.WireField.encode, putUvarint_of_lt]
    · simp only [callDApp, List.mem_singleton, forall_eq]
      exact .assignment (by decide) (.long 1)
    · simp only [callDApp, List.mem_singleton, forall_eq]
      exact .mk (by decide) (by decide) (by decide) (by simp) (.boolean true)
  exact ⟨hs, parse_serializeTree zeroHash zeroHash hs⟩

/-! ## No converse -/

/-- A version 6 expression `true` with a stray byte `0` between its body and its checksum. -/
def trailingByteScript (secureHash : Bytes → Digest) : Bytes :=
  [6, contentTypeExpression, tokenTrue, 0] ++
    (secureHash [6, contentTypeExpression, tokenTrue, 0]).toList.take 4

theorem parse_ignoresTrailingByte (secureHash sha256 : Bytes → Digest) :
    ∃ t, parse secureHash sha256 (trailingByteScript secureHash) = .ok t ∧
      ∃ script, serializeTree secureHash t = .ok script ∧
        script ≠ trailingByteScript secureHash := by
  refine ⟨{ Tree.new contentTypeExpression 6 with
    verifier := some (.booleanNode true)
    digest := (sha256 (trailingByteScript secureHash)).toList }, ?_,
    [6, contentTypeExpression, tokenTrue] ++
      (secureHash [6, contentTypeExpression, tokenTrue]).toList.take 4, rfl, fun h => ?_⟩
  · rw [parse, trailingByteScript, verifyCheckSum_append secureHash (by simp)]
    rfl
  · have := congrArg List.length h
    simp [trailingByteScript] at this

/-- **`SerializeTree` does not undo `Parse`**: the script `06 01 06 00` with its checksum parses,
and the tree it gives is not serialized back to it. -/
theorem parse_acceptsTrailingBytes :
    ∃ t, parse zeroHash zeroHash (trailingByteScript zeroHash) = .ok t ∧
      serializeTree zeroHash t ≠ .ok (trailingByteScript zeroHash) := by
  obtain ⟨t, hp, script, hs, hne⟩ := parse_ignoresTrailingByte zeroHash zeroHash
  refine ⟨t, hp, ?_⟩
  rw [hs]
  exact fun h => hne (Outcome.ok.inj h)

end Gowaves.Ride.Serialization
