import Gowaves.Ride.Parser

/-!
# The parser reads back what the serializer writes: nodes

A parser method *reads* a value `a` from bytes `bs` (`Reads p a bs`) when, started on `bs`
followed by anything, it returns `a` and leaves exactly what followed; the block flag of the
state may change.  Reading composes: `Reads.bind` reads two values from the concatenation of
their bytes.  From the readers of integers and strings, one step lemma per token
(`reads_tokenIf`, …) and the loop of `readCounted`, the main result follows by induction on
the fuel:

* `parseNext_walk` — every `Serializable` node is read back by `parseNext` from the bytes
  `walk` writes for it, in both formats, given more fuel than bytes;
* `walk_ok` — the serializer writes every `Serializable` node.

A node is `Serializable` when every block is present (the serializer refuses a missing one),
no nested function declaration has an invocation parameter (it is not written), every native
function name is the decimal of a number below `2^15` (it is written as a number and read
back as a signed `int16`), and every length and count is below `2^31` (they are read back as
`int32`).
-/

set_option autoImplicit false

namespace Gowaves.Ride.Serialization

open GoLib GoLib.Reader Gowaves.Ride.Serialization.Parser

/-! ## Well-formed nodes -/

/-- A called function whose name the serializer writes and the parser reads back. -/
def SerializableFunction : Function → Prop
  | .nativeFunction name => ∃ k : Nat, k < 2 ^ 15 ∧ name = Strconv.itoa k
  | .userFunction name => name.length < 2 ^ 31

/-- An expression node that the parser reads back as the serializer wrote it. -/
inductive Serializable : Node → Prop
  | long (v : Int64) : Serializable (.longNode v)
  | bytes {v : Bytes} (h : v.length < 2 ^ 31) : Serializable (.bytesNode v)
  | boolean (b : Bool) : Serializable (.booleanNode b)
  | string {v : GoString} (h : v.length < 2 ^ 31) : Serializable (.stringNode v)
  | conditional {c t f : Node} : Serializable c → Serializable t → Serializable f →
      Serializable (.conditionalNode c t f)
  | assignment {name : GoString} {e b : Node} (newBlock : Bool) (h : name.length < 2 ^ 31) :
      Serializable e → Serializable b → Serializable (.assignmentNode name e (some b) newBlock)
  | reference {name : GoString} (h : name.length < 2 ^ 31) : Serializable (.referenceNode name)
  | functionDeclaration {name : GoString} {args : List GoString} {body b : Node}
      (hn : name.length < 2 ^ 31) (ha : args.length < 2 ^ 31) (has : ∀ a ∈ args, a.length < 2 ^ 31) :
      Serializable body → Serializable b →
      Serializable (.functionDeclarationNode name args body (some b) [])
  | functionCall {fn : Function} {args : List Node} (hf : SerializableFunction fn) (ha : args.length < 2 ^ 31) :
      (∀ a ∈ args, Serializable a) → Serializable (.functionCallNode fn args)
  | property {name : GoString} {obj : Node} (h : name.length < 2 ^ 31) :
      Serializable obj → Serializable (.propertyNode name obj)

/-! ## Reading -/

/-- `p` reads `a` from the front `bs` of its input: whatever follows is left unread. -/
def Reads {α : Type} (p : Parser α) (a : α) (bs : Bytes) : Prop :=
  ∀ rest s, ∃ s', p ⟨bs ++ rest, s⟩ = (.ok a, ⟨rest, s'⟩)

namespace Reads

variable {α β : Type}

theorem pure (a : α) : Reads (Pure.pure a : Parser α) a [] := fun _ s => ⟨s, rfl⟩

/-- **Reading composes**: two readers read from the concatenation of their bytes. -/
theorem bind {p : Parser α} {f : α → Parser β} {a : α} {b : β} {bs₁ bs₂ : Bytes}
    (h₁ : Reads p a bs₁) (h₂ : Reads (f a) b bs₂) : Reads (p >>= f) b (bs₁ ++ bs₂) := by
  intro rest s
  obtain ⟨s₁, e₁⟩ := h₁ (bs₂ ++ rest) s
  obtain ⟨s₂, e₂⟩ := h₂ rest s₁
  exact ⟨s₂, by rw [List.append_assoc, StOutcome.bind_run_ok e₁, e₂]⟩

theorem map {p : Parser α} {a : α} {bs : Bytes} (h : Reads p a bs) (g : α → β) :
    Reads (p >>= fun x => Pure.pure (g x)) (g a) bs := by
  intro rest s
  obtain ⟨s', e⟩ := h rest s
  exact ⟨s', by rw [StOutcome.bind_run_ok e]; rfl⟩

theorem of_eq {p : Parser α} {a : α} {bs bs' : Bytes} (h : Reads p a bs) (e : bs = bs') :
    Reads p a bs' := e ▸ h

theorem bind_nil {p : Parser α} {f : α → Parser β} {a : α} {b : β} {bs : Bytes}
    (h₁ : Reads p a bs) (h₂ : Reads (f a) b []) : Reads (p >>= f) b bs :=
  (h₁.bind h₂).of_eq (List.append_nil bs)

end Reads

theorem reads_liftRead {α : Type} {f : Bytes → Except String (α × Bytes)} {a : α} {bs : Bytes}
    (h : ∀ rest, f (bs ++ rest) = .ok (a, rest)) : Reads (liftRead f) a bs := by
  intro rest s
  exact ⟨s, by simp [liftRead, h rest]⟩

theorem reads_readByte (b : UInt8) : Reads readByte b [b] :=
  reads_liftRead fun _ => rfl

theorem reads_setSeenBlockV2 :
    Reads (StOutcome.modify fun st => { st with seenBlockV2 := true }) () [] :=
  fun _ _ => ⟨true, rfl⟩

/-! ## Integers and strings -/

theorem ofNat_toUInt64_toNat (v : Int64) : Int64.ofNat v.toUInt64.toNat = v := by
  apply Int64.toBitVec.inj
  simp

theorem reads_readLong (m : Mode) (v : Int64) : Reads (readLong m) v (writeInt64 m v) := by
  have hv := v.toUInt64.toNat_lt
  cases m with
  | v1 =>
    have h : Reads (liftRead (readFull 8)) (BigEndian.toBytes 8 v.toUInt64.toNat)
        (BigEndian.toBytes 8 v.toUInt64.toNat) := reads_liftRead fun rest =>
      BigEndian.length_toBytes 8 v.toUInt64.toNat ▸ readFull_append _ rest
    have := h.map fun b => Int64.ofNat (BigEndian.ofBytes b)
    rwa [BigEndian.ofBytes_toBytes_of_lt (by simpa using hv), ofNat_toUInt64_toNat] at this
  | v2 =>
    have h : Reads (liftRead readUvarint) v.toUInt64.toNat (putUvarint v.toUInt64.toNat) :=
      reads_liftRead fun rest => readUvarint_putUvarint _ hv rest
    have := h.map Int64.ofNat
    rwa [ofNat_toUInt64_toNat] at this

theorem reads_readInt (m : Mode) {n : Nat} (hn : n < 2 ^ 31) :
    Reads (readInt m) (Int32.ofNat n) (writeUint32 m (UInt32.ofNat n)) := by
  have hn32 : (UInt32.ofNat n).toNat = n := by simp; omega
  cases m with
  | v1 =>
    have h : Reads (liftRead (readFull 4)) (BigEndian.toBytes 4 n) (BigEndian.toBytes 4 n) :=
      reads_liftRead fun rest => BigEndian.length_toBytes 4 n ▸ readFull_append _ rest
    have := h.map fun b => Int32.ofNat (BigEndian.ofBytes b)
    rw [BigEndian.ofBytes_toBytes_of_lt (by omega)] at this
    simpa [readInt, readIntV1, writeUint32, hn32] using this
  | v2 =>
    have h : Reads (liftRead readUvarint) n (putUvarint n) :=
      reads_liftRead fun rest => readUvarint_putUvarint n (by omega) rest
    have hrange : ¬ ((Int64.ofNat n).toInt < -2 ^ 31 ∨ 2 ^ 31 - 1 < (Int64.ofNat n).toInt) := by
      rw [Int64.toInt_ofNat_of_lt (by omega)]
      omega
    rw [writeUint32, hn32]
    refine Reads.bind_nil h ?_
    show Reads (if _ then _ else _) _ []
    rw [if_neg hrange]
    exact Reads.pure _

theorem reads_readShort (m : Mode) {k : Nat} (hk : k < 2 ^ 15) :
    Reads (readShort m) (Int16.ofNat k) (writeUint16 m (UInt16.ofNat k)) := by
  have hk16 : (UInt16.ofNat k).toNat = k := by simp; omega
  cases m with
  | v1 =>
    have h : Reads (liftRead (readFull 2)) (BigEndian.toBytes 2 k) (BigEndian.toBytes 2 k) :=
      reads_liftRead fun rest => BigEndian.length_toBytes 2 k ▸ readFull_append _ rest
    have := h.map fun b => Int16.ofNat (BigEndian.ofBytes b)
    rw [BigEndian.ofBytes_toBytes_of_lt (by omega)] at this
    simpa [readShort, readShortV1, writeUint16, hk16] using this
  | v2 =>
    have h : Reads (liftRead readUvarint) k (putUvarint k) :=
      reads_liftRead fun rest => readUvarint_putUvarint k (by omega) rest
    have hrange : ¬ ((Int64.ofNat k).toInt < -2 ^ 15 ∨ 2 ^ 15 - 1 < (Int64.ofNat k).toInt) := by
      rw [Int64.toInt_ofNat_of_lt (by omega)]
      omega
    rw [writeUint16, hk16]
    refine Reads.bind_nil h ?_
    show Reads (if _ then _ else _) _ []
    rw [if_neg hrange]
    exact Reads.pure _

theorem not_ofNat_lt_zero {n : Nat} (hn : n < 2 ^ 31) : ¬ Int32.ofNat n < 0 := by
  rw [Int32.lt_iff_toInt_lt, Int32.toInt_ofNat_of_lt hn]
  simp

theorem ofNat_eq_zero_iff {n : Nat} (hn : n < 2 ^ 31) : Int32.ofNat n = 0 ↔ n = 0 := by
  rw [← Int32.toInt_inj, Int32.toInt_ofNat_of_lt hn]
  simp

theorem reads_readBytes (m : Mode) {d : Bytes} (hd : d.length < 2 ^ 31) :
    Reads (readBytes m) d (writeBytes m d) := by
  refine (reads_readInt m hd).bind ?_
  show Reads (if _ then _ else _) d d
  rw [if_neg (not_ofNat_lt_zero hd), Int32.toNatClampNeg_ofNat_of_lt hd]
  by_cases h0 : d = []
  · subst h0
    exact Reads.pure _
  · rw [if_neg (by rw [ofNat_eq_zero_iff hd]; simpa using h0)]
    have h : Reads (liftRead (Reader.read d.length)) d d :=
      reads_liftRead fun rest => Reader.read_append d rest h0
    have := h.map fun bs => bs ++ List.replicate (d.length - bs.length) 0
    rwa [Nat.sub_self, List.replicate_zero, List.append_nil] at this

theorem reads_readString (m : Mode) {s : GoString} (hs : s.length < 2 ^ 31) :
    Reads (readString m) s (writeString m s) := reads_readBytes m hs

/-! ## Counted loops -/

theorem reads_mapM_replicate {α : Type} (p : Parser α) :
    ∀ (as : List α) (bss : List Bytes), List.Forall₂ (fun a bs => Reads p a bs) as bss →
      Reads ((List.replicate as.length p).mapM id) as bss.flatten
  | [], [], _ => Reads.pure _
  | a :: as, bs :: bss, .cons h hs => by
    have hrest := reads_mapM_replicate p as bss hs
    rw [List.length_cons, List.replicate_succ, List.mapM_cons, List.flatten_cons]
    exact h.bind (hrest.bind_nil (Reads.pure _))

theorem reads_readCounted {α : Type} {p : Parser α} {as : List α} {bss : List Bytes}
    (hl : as.length < 2 ^ 31) (h : List.Forall₂ (fun a bs => Reads p a bs) as bss) :
    Reads (readCounted (Int32.ofNat as.length) p) as bss.flatten := by
  rw [readCounted, if_neg (not_ofNat_lt_zero hl), Int32.toNatClampNeg_ofNat_of_lt hl]
  exact reads_mapM_replicate p as bss h

theorem forall₂_readString (m : Mode) :
    ∀ (args : List GoString), (∀ a ∈ args, a.length < 2 ^ 31) →
      List.Forall₂ (fun a bs => Reads (readString m) a bs) args (args.map (writeString m))
  | [], _ => .nil
  | a :: args, h =>
    .cons (reads_readString m (h a (by simp)))
      (forall₂_readString m args fun a' ha' => h a' (by simp [ha']))

/-! ## One step per token -/

section Tokens

variable (m : Mode) {next : Parser Node}

theorem reads_parseNextWith {n : Node} {t : UInt8} {bs : Bytes}
    (h : Reads (parseToken m next t) n bs) : Reads (parseNextWith m next) n (t :: bs) :=
  (reads_readByte t).bind h

theorem reads_tokenLong (v : Int64) :
    Reads (parseToken m next tokenLong) (.longNode v) (writeInt64 m v) :=
  (reads_readLong m v).map Node.longNode

theorem reads_tokenBytes {v : Bytes} (h : v.length < 2 ^ 31) :
    Reads (parseToken m next tokenBytes) (.bytesNode v) (writeBytes m v) :=
  (reads_readBytes m h).map Node.bytesNode

theorem reads_tokenString {v : GoString} (h : v.length < 2 ^ 31) :
    Reads (parseToken m next tokenString) (.stringNode v) (writeString m v) :=
  (reads_readString m h).map Node.stringNode

theorem reads_tokenIf {c t f : Node} {bc bt bf : Bytes} (hc : Reads next c bc)
    (ht : Reads next t bt) (hf : Reads next f bf) :
    Reads (parseToken m next tokenIf) (.conditionalNode c t f) (bc ++ bt ++ bf) :=
  (hc.bind (ht.bind (hf.map (Node.conditionalNode c t)))).of_eq (List.append_assoc _ _ _).symm

theorem reads_tokenBlockV1 {name : GoString} {e b : Node} {be bb : Bytes}
    (hname : name.length < 2 ^ 31) (he : Reads next e be) (hb : Reads next b bb) :
    Reads (parseToken m next tokenBlockV1) (.assignmentNode name e (some b) false)
      (writeString m name ++ be ++ bb) :=
  ((reads_readString m hname).bind (he.bind
    (hb.map fun b => Node.assignmentNode name e (some b) false))).of_eq
    (List.append_assoc _ _ _).symm

theorem reads_tokenRef {name : GoString} (h : name.length < 2 ^ 31) :
    Reads (parseToken m next tokenRef) (.referenceNode name) (writeString m name) :=
  (reads_readString m h).map Node.referenceNode

theorem reads_tokenTrue : Reads (parseToken m next tokenTrue) (.booleanNode true) [] :=
  Reads.pure _

theorem reads_tokenFalse : Reads (parseToken m next tokenFalse) (.booleanNode false) [] :=
  Reads.pure _

theorem reads_tokenGetter {name : GoString} {obj : Node} {bo : Bytes} (ho : Reads next obj bo)
    (hname : name.length < 2 ^ 31) :
    Reads (parseToken m next tokenGetter) (.propertyNode name obj) (bo ++ writeString m name) :=
  ho.bind ((reads_readString m hname).map fun field => Node.propertyNode field obj)

theorem reads_functionName {fn : Function} {bn : Bytes} (hf : SerializableFunction fn)
    (hw : writeFunctionName m fn = .ok bn) :
    ∃ ft rest, bn = ft :: rest ∧ Reads (readFunctionName m ft) fn rest := by
  cases fn with
  | nativeFunction name =>
    obtain ⟨k, hk, rfl⟩ := hf
    have hparse := @Strconv.parseUint_itoa 16 k (by omega) (by omega)
    simp only [writeFunctionName, hparse] at hw
    cases hw
    refine ⟨functionTypeNative, _, rfl, ?_⟩
    have := (reads_readShort m hk).map fun id => Function.nativeFunction (Strconv.itoa id.toInt)
    rwa [Int16.toInt_ofNat_of_lt hk] at this
  | userFunction name =>
    simp only [writeFunctionName] at hw
    cases hw
    exact ⟨functionTypeUser, _, rfl, (reads_readString m hf).map Function.userFunction⟩

theorem reads_tokenFunctionCall {fn : Function} {args : List Node} {ft : UInt8} {bn : Bytes}
    {bss : List Bytes} (hfn : Reads (readFunctionName m ft) fn bn) (hl : args.length < 2 ^ 31)
    (hargs : List.Forall₂ (fun a bs => Reads next a bs) args bss) :
    Reads (parseToken m next tokenFunctionCall) (.functionCallNode fn args)
      (ft :: bn ++ writeUint32 m (UInt32.ofNat args.length) ++ bss.flatten) := by
  rw [show ft :: bn ++ writeUint32 m (UInt32.ofNat args.length) ++ bss.flatten =
    [ft] ++ (bn ++ (writeUint32 m (UInt32.ofNat args.length) ++ bss.flatten)) by simp]
  exact (reads_readByte ft).bind (hfn.bind ((reads_readInt m hl).bind
    ((reads_readCounted hl hargs).map (Node.functionCallNode fn))))

theorem reads_declarationLet {name : GoString} {e : Node} {be : Bytes}
    (hname : name.length < 2 ^ 31) (he : Reads next e be) :
    Reads (readDeclarationWith m next) (.assignmentNode name e none false)
      (declarationTypeLet :: writeString m name ++ be) :=
  (reads_readByte _).bind ((reads_readString m hname).bind
    (he.map fun e => Node.assignmentNode name e none false))

theorem reads_declarationFunction {name : GoString} {args : List GoString} {body : Node}
    {bb : Bytes} (hn : name.length < 2 ^ 31) (ha : args.length < 2 ^ 31)
    (has : ∀ a ∈ args, a.length < 2 ^ 31) (hbody : Reads next body bb) :
    Reads (readDeclarationWith m next) (.functionDeclarationNode name args body none [])
      (functionDeclarationBytes m name args bb) := by
  rw [show functionDeclarationBytes m name args bb = [declarationTypeFunction] ++
    (writeString m name ++ (writeUint32 m (UInt32.ofNat args.length) ++
      ((args.map (writeString m)).flatten ++ bb))) by simp [functionDeclarationBytes, List.flatMap]]
  exact (reads_readByte _).bind ((reads_readString m hn).bind ((reads_readInt m ha).bind
    ((reads_readCounted ha (forall₂_readString m args has)).bind
      (hbody.map fun body => Node.functionDeclarationNode name args body none []))))

theorem reads_tokenBlockV2 {d : Node} {b : Node} {bd bb : Bytes}
    (hd : Reads (readDeclarationWith m next) d bd) (hb : Reads next b bb) :
    Reads (parseToken m next tokenBlockV2) ((markNewBlock d).setBlock b) (bd ++ bb) :=
  reads_setSeenBlockV2.bind (hd.bind (hb.map fun b => (markNewBlock d).setBlock b))

end Tokens

/-! ## Nodes -/

theorem walkArguments_eq_ok {m : Mode} : ∀ {args : List Node} {ba : Bytes},
    walkArguments m args = .ok ba →
      ∃ bss, ba = bss.flatten ∧ List.Forall₂ (fun a bs => walk m a = .ok bs) args bss
  | [], ba, h => by
    simp only [walkArguments, Outcome.ok.injEq] at h
    exact ⟨[], by simp [← h], .nil⟩
  | a :: args, ba, h => by
    simp only [walkArguments, Outcome.bind_eq_ok] at h
    obtain ⟨b, hb, bs, hbs, h⟩ := h
    cases h
    obtain ⟨bss, rfl, hall⟩ := walkArguments_eq_ok hbs
    exact ⟨b :: bss, by simp, .cons hb hall⟩

theorem forall₂_of_flatten_length_lt {α β : Type} {R Q : α → List β → Prop} {fuel : Nat}
    (h : ∀ a bs, R a bs → bs.length < fuel → Q a bs) :
    ∀ {as : List α} {bss : List (List β)}, List.Forall₂ R as bss → bss.flatten.length < fuel →
      List.Forall₂ Q as bss
  | [], [], .nil, _ => .nil
  | a :: _, bs :: _, .cons hr hrest, hlen => by
    simp only [List.flatten_cons, List.length_append] at hlen
    exact .cons (h a bs hr (by omega)) (forall₂_of_flatten_length_lt h hrest (by omega))

theorem forall₂_reads_of_walk {m : Mode} {p : Parser Node} {fuel : Nat}
    (ih : ∀ n bs, Serializable n → walk m n = .ok bs → bs.length < fuel → Reads p n bs)
    {args : List Node} {bss : List Bytes} (hs : ∀ a ∈ args, Serializable a)
    (hw : List.Forall₂ (fun a bs => walk m a = .ok bs) args bss) (hlen : bss.flatten.length < fuel) :
    List.Forall₂ (fun a bs => Reads p a bs) args bss :=
  forall₂_of_flatten_length_lt (fun a bs h => ih a bs h.1 h.2)
    ((List.forall₂_and_left args bss).mpr ⟨hs, hw⟩) hlen

/-- **The parser reads back what the serializer writes**: every `Serializable` node is read by
`parseNext` from the bytes of `walk`, in either format, given more fuel than bytes.  The
induction is on the fuel: every sub-node's bytes are shorter than the node's, whose first byte
is its token. -/
theorem parseNext_walk (m : Mode) : ∀ (fuel : Nat) (n : Node) (bs : Bytes), Serializable n →
    walk m n = .ok bs → bs.length < fuel → Reads (parseNext m fuel) n bs
  | 0, _, _, _, _, hlen => absurd hlen (Nat.not_lt_zero _)
  | fuel + 1, n, bs, hs, hw, hlen => by
    have ih := parseNext_walk m fuel
    show Reads (parseNextWith m (parseNext m fuel)) n bs
    cases hs with
    | long v =>
      cases hw
      exact reads_parseNextWith m (reads_tokenLong m v)
    | bytes h =>
      cases hw
      exact reads_parseNextWith m (reads_tokenBytes m h)
    | boolean b =>
      cases b with
      | true =>
        cases hw
        exact reads_parseNextWith m (reads_tokenTrue m)
      | false =>
        cases hw
        exact reads_parseNextWith m (reads_tokenFalse m)
    | string h =>
      cases hw
      exact reads_parseNextWith m (reads_tokenString m h)
    | conditional hc ht hf =>
      simp only [walk, Outcome.bind_eq_ok] at hw
      obtain ⟨bc, hbc, bt, hbt, bf, hbf, hw⟩ := hw
      cases hw
      simp only [List.length_cons, List.length_append] at hlen
      exact reads_parseNextWith m (reads_tokenIf m (ih _ _ hc hbc (by omega))
        (ih _ _ ht hbt (by omega)) (ih _ _ hf hbf (by omega)))
    | assignment newBlock hname he hb =>
      simp only [walk, walkBlock, Outcome.bind_eq_ok] at hw
      obtain ⟨be, hbe, bb, hbb, hw⟩ := hw
      cases hw
      cases newBlock with
      | false =>
        simp only [Bool.false_eq_true, if_false, List.length_append, List.length_singleton]
          at hlen ⊢
        exact (reads_parseNextWith m (reads_tokenBlockV1 m hname (ih _ _ he hbe (by omega))
          (ih _ _ hb hbb (by omega)))).of_eq (by simp)
      | true =>
        simp only [if_true, List.length_append, List.length_cons, List.length_nil] at hlen ⊢
        exact (reads_parseNextWith m (reads_tokenBlockV2 m (reads_declarationLet m hname
          (ih _ _ he hbe (by omega))) (ih _ _ hb hbb (by omega)))).of_eq (by simp)
    | reference h =>
      cases hw
      exact reads_parseNextWith m (reads_tokenRef m h)
    | functionDeclaration hn ha has hbody hb =>
      simp only [walk, walkBlock, Outcome.bind_eq_ok] at hw
      obtain ⟨bd, hbd, bb, hbb, hw⟩ := hw
      cases hw
      simp only [functionDeclarationBytes, List.length_cons, List.length_append] at hlen
      exact reads_parseNextWith m (reads_tokenBlockV2 m (reads_declarationFunction m hn ha has
        (ih _ _ hbody hbd (by omega))) (ih _ _ hb hbb (by omega)))
    | functionCall hf ha hargs =>
      simp only [walk, Outcome.bind_eq_ok] at hw
      obtain ⟨bn, hbn, ba, hba, hw⟩ := hw
      cases hw
      obtain ⟨ft, rest, rfl, hfn⟩ := reads_functionName m hf hbn
      obtain ⟨bss, rfl, hall⟩ := walkArguments_eq_ok hba
      simp only [List.length_cons, List.length_append] at hlen
      have hreads := forall₂_reads_of_walk ih hargs hall (by omega)
      exact (reads_parseNextWith m (reads_tokenFunctionCall m hfn ha hreads)).of_eq (by simp)
    | property h hobj =>
      simp only [walk, Outcome.bind_eq_ok] at hw
      obtain ⟨bo, hbo, hw⟩ := hw
      cases hw
      simp only [List.length_cons, List.length_append] at hlen
      exact (reads_parseNextWith m (reads_tokenGetter m (ih _ _ hobj hbo (by omega)) h)).of_eq
        (by simp)

theorem writeFunctionName_ok (m : Mode) {fn : Function} (hf : SerializableFunction fn) :
    ∃ bn, writeFunctionName m fn = .ok bn := by
  cases fn with
  | nativeFunction name =>
    obtain ⟨k, hk, rfl⟩ := hf
    have hparse := @Strconv.parseUint_itoa 16 k (by omega) (by omega)
    exact ⟨functionTypeNative :: writeUint16 m (UInt16.ofNat k),
      by simp only [writeFunctionName, hparse]⟩
  | userFunction name => exact ⟨_, rfl⟩

theorem walkArguments_ok (m : Mode) :
    ∀ {args : List Node}, (∀ a ∈ args, ∃ bs, walk m a = .ok bs) →
      ∃ ba, walkArguments m args = .ok ba
  | [], _ => ⟨[], rfl⟩
  | a :: args, h => by
    obtain ⟨b, hb⟩ := h a (by simp)
    obtain ⟨ba, hba⟩ := @walkArguments_ok m args fun a' ha' => h a' (by simp [ha'])
    exact ⟨b ++ ba, by simp [walkArguments, hb, hba]⟩

/-- **The serializer writes every serializable node.** -/
theorem walk_ok (m : Mode) {n : Node} (hs : Serializable n) : ∃ bs, walk m n = .ok bs := by
  induction hs with
  | long | bytes | string | reference => exact ⟨_, rfl⟩
  | boolean b => cases b <;> exact ⟨_, rfl⟩
  | conditional _ _ _ ihc iht ihf =>
    obtain ⟨bc, hc⟩ := ihc
    obtain ⟨bt, ht⟩ := iht
    obtain ⟨bf, hf⟩ := ihf
    exact ⟨tokenIf :: bc ++ bt ++ bf, by simp [walk, hc, ht, hf]⟩
  | @assignment name _ _ newBlock _ _ _ ihe ihb =>
    obtain ⟨be, he⟩ := ihe
    obtain ⟨bb, hb⟩ := ihb
    exact ⟨(if newBlock then [tokenBlockV2, declarationTypeLet] else [tokenBlockV1]) ++
      writeString m name ++ be ++ bb, by simp [walk, walkBlock, he, hb]⟩
  | @functionDeclaration name args _ _ _ _ _ _ _ ihbody ihb =>
    obtain ⟨bd, hd⟩ := ihbody
    obtain ⟨bb, hb⟩ := ihb
    exact ⟨tokenBlockV2 :: functionDeclarationBytes m name args bd ++ bb,
      by simp [walk, walkBlock, hd, hb]⟩
  | @functionCall _ args hf _ _ ih =>
    obtain ⟨bn, hn⟩ := writeFunctionName_ok m hf
    obtain ⟨ba, ha⟩ := walkArguments_ok m ih
    exact ⟨tokenFunctionCall :: bn ++ writeUint32 m (UInt32.ofNat args.length) ++ ba,
      by simp [walk, hn, ha]⟩
  | @property name _ _ _ ih =>
    obtain ⟨bo, ho⟩ := ih
    exact ⟨tokenGetter :: bo ++ writeString m name, by simp [walk, ho]⟩

end Gowaves.Ride.Serialization
