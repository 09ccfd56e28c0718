import Mathlib
import CrossCall.Fulfillment.Transaction
import CrossCall.Proofs.Rlp.Canonical

/-!
# What a signed transaction tells

A transaction is signed and sent as a list of nine strings. Six of them tell what it says besides
its chain. In the list that is signed the chain's id follows, with two empty strings; in the list
that is sent it is folded into the number `v`, with the parity of the signature, and `r` and `s`
follow. Since `v` is not cut to any width, the chain can be told from it, and so the whole
transaction from what is sent. Only a list of `2 ^ 64` bytes or more has no mark and cannot be read;
still no other transaction is sent in the same way.

## Main definitions

* `LegacyTransaction.Tells` — six strings tell what a transaction says besides its chain
* `LegacyTransaction.IsFaithful` — what is signed and what is sent tell the transaction

## Main results

* `SecretKey.sign_lt` — the numbers of a signature are below the order of the base point
* `LegacyTransaction.Tells.unique` — strings tell one transaction of a chain
* `LegacyTransaction.sign_isFaithful` — every transaction is sent as it is
-/

namespace CrossCall

/-! ### The numbers of a signature -/

theorem Signature.lt_of_withNumber? {d z k : Nat} {σ : Signature}
    (h : withNumber? d z k = some σ) : σ.r < Curve.order ∧ σ.s < Curve.order := by
  have horder : 0 < Curve.order := Nat.zero_lt_of_lt Curve.one_lt_order
  rw [withNumber?] at h
  split at h
  · cases h
  · split at h
    · cases h
    · dsimp only at h
      split_ifs at h with hzero hhalf
      · cases h
        exact ⟨Nat.mod_lt _ horder, Nat.mod_lt _ horder⟩
      · cases h
        exact ⟨Nat.mod_lt _ horder, by dsimp only; omega⟩

theorem Signature.lt_of_search (d z attempts : Nat) (g : Generator) :
    (search d z attempts g).r < Curve.order ∧ (search d z attempts g).s < Curve.order := by
  have horder : 0 < Curve.order := Nat.zero_lt_of_lt Curve.one_lt_order
  induction attempts generalizing g with
  | zero => exact ⟨horder, horder⟩
  | succ attempts ih =>
    rcases hσ : withNumber? d z g.draw.1 with _ | σ
    · simp only [search, hσ]
      exact ih _
    · simp only [search, hσ]
      exact lt_of_withNumber? hσ

theorem SecretKey.sign_lt (key : SecretKey) (digest : Word) :
    (key.sign digest).r < Curve.order ∧ (key.sign digest).s < Curve.order :=
  Signature.lt_of_search _ _ _ _

namespace LegacyTransaction

variable {t t' : LegacyTransaction}

/-! ### The strings of a transaction -/

/-- Six strings tell what a transaction says besides its chain: numbers without zeros in front, an
address in full width, and the input as it is. -/
inductive Tells (t : LegacyTransaction) : List Bytes → Prop
  | intro {nonce gasPrice gasLimit target value input : Bytes}
      (nonce_eq : Rlp.IsNumeral nonce t.nonce.toNat)
      (gasPrice_eq : Rlp.IsNumeral gasPrice t.fee.gasPrice.toNat)
      (gasLimit_eq : Rlp.IsNumeral gasLimit t.fee.gasLimit.toNat)
      (target_length : target.length = 20) (target_eq : target.toNat = t.target.toNat)
      (value_eq : Rlp.IsNumeral value t.value.toNat) (input_eq : input = t.input) :
      Tells t [nonce, gasPrice, gasLimit, target, value, input]

/-- The strings in which a transaction is written. -/
def strings (t : LegacyTransaction) : List Bytes :=
  [.shortest t.nonce.toNat, .shortest t.fee.gasPrice.toNat, .shortest t.fee.gasLimit.toNat,
    .ofBitVec t.target, .shortest t.value.toNat, t.input]

theorem length_strings (t : LegacyTransaction) : t.strings.length = 6 := rfl

theorem tells_strings (t : LegacyTransaction) : t.Tells t.strings :=
  .intro (Rlp.isNumeral_shortest _) (Rlp.isNumeral_shortest _) (Rlp.isNumeral_shortest _)
    (Bytes.length_ofBitVec t.target) (Bytes.toNat_ofBitVec t.target) (Rlp.isNumeral_shortest _) rfl

/-- The same strings tell one transaction of a chain. -/
theorem Tells.unique {strings : List Bytes} (h : t.Tells strings) (h' : t'.Tells strings)
    (hchain : t.chainId = t'.chainId) : t = t' := by
  obtain ⟨hnonce, hprice, hlimit, -, htarget, hvalue, hinput⟩ := h
  obtain ⟨hnonce', hprice', hlimit', -, htarget', hvalue', hinput'⟩ := h'
  obtain ⟨chainId, nonce, target, value, input, gasLimit, gasPrice⟩ := t
  obtain ⟨chainId', nonce', target', value', input', gasLimit', gasPrice'⟩ := t'
  obtain rfl := BitVec.eq_of_toNat_eq (hnonce.unique hnonce')
  obtain rfl := BitVec.eq_of_toNat_eq (hprice.unique hprice')
  obtain rfl := BitVec.eq_of_toNat_eq (hlimit.unique hlimit')
  obtain rfl := BitVec.eq_of_toNat_eq (htarget.symm.trans htarget')
  obtain rfl := BitVec.eq_of_toNat_eq (hvalue.unique hvalue')
  obtain rfl : input = input' := hinput.symm.trans hinput'
  obtain rfl : chainId = chainId' := hchain
  rfl

/-- The nine strings that are sent with a signature. -/
def sentStrings (t : LegacyTransaction) (σ : Signature) : List Bytes :=
  t.strings ++
    [Bytes.shortest (recoveryNumber t.chainId σ.odd), Bytes.shortest σ.r, Bytes.shortest σ.s]

theorem digest_eq (t : LegacyTransaction) :
    t.digest =
      keccak256 (Rlp.encodeStrings (t.strings ++ [Bytes.shortest t.chainId.toNat, [], []])) := by
  rw [← Bytes.shortest_zero]
  rfl

theorem encode_eq (t : LegacyTransaction) (σ : Signature) :
    t.encode σ = Rlp.encodeStrings (t.sentStrings σ) := rfl

/-! ### Telling transactions apart -/

theorem recoveryNumber_eq (chainId : ChainId) (odd : Bool) :
    recoveryNumber chainId odd = 35 + 2 * chainId.toNat + odd.toNat := by
  cases odd <;> rfl

theorem length_shortest_lt {n : Nat} (h : n < 2 ^ 256) : (Bytes.shortest n).length < 2 ^ 64 := by
  have hle : (Bytes.shortest n).length ≤ 32 := Bytes.length_shortest_le (k := 32) h
  omega

/-- The strings that are sent are short, but for the input. -/
theorem length_lt_of_mem_sentStrings {σ : Signature} (hinput : t.input.length < 2 ^ 64)
    (hσ : σ.r < Curve.order ∧ σ.s < Curve.order) {s : Bytes} (hs : s ∈ t.sentStrings σ) :
    s.length < 2 ^ 64 := by
  have horder : Curve.order < 2 ^ 256 := by decide
  have hrecovery : recoveryNumber t.chainId σ.odd < 2 ^ 256 := by
    have hchain := t.chainId.isLt
    have hodd := σ.odd.toNat_lt
    rw [recoveryNumber_eq]
    omega
  have htarget : (Bytes.ofBitVec t.target).length < 2 ^ 64 := by
    rw [Bytes.length_ofBitVec]
    norm_num
  have hbits : ∀ {k} (w : BitVec k), k ≤ 256 → (Bytes.shortest w.toNat).length < 2 ^ 64 :=
    fun w hk => length_shortest_lt (w.isLt.trans_le (Nat.pow_le_pow_right Nat.two_pos hk))
  simp only [sentStrings, strings, List.mem_append, List.mem_cons, List.not_mem_nil,
    or_false] at hs
  rcases hs with (h | h | h | h | h | h) | h | h | h <;> rw [h]
  · exact hbits t.nonce (by decide)
  · exact hbits t.fee.gasPrice (by decide)
  · exact hbits t.fee.gasLimit (by decide)
  · exact htarget
  · exact hbits t.value (by decide)
  · exact hinput
  · exact length_shortest_lt hrecovery
  · exact length_shortest_lt (hσ.1.trans horder)
  · exact length_shortest_lt (hσ.2.trans horder)

theorem length_sentStrings_lt (t : LegacyTransaction) (σ : Signature) :
    (t.sentStrings σ).length < 256 := by
  simp [sentStrings, strings]

/-- Whatever the signatures are, two transactions that are sent in the same way are the same. -/
theorem eq_of_encode_eq {σ σ' : Signature} (hinput : t.input.length < 2 ^ 64)
    (hσ : σ.r < Curve.order ∧ σ.s < Curve.order) (hinput' : t'.input.length < 2 ^ 64)
    (hσ' : σ'.r < Curve.order ∧ σ'.s < Curve.order) (h : t.encode σ = t'.encode σ') : t = t' := by
  have hstrings : t.sentStrings σ = t'.sentStrings σ' :=
    Rlp.encodeStrings_injective (fun _ => length_lt_of_mem_sentStrings hinput hσ)
      (length_sentStrings_lt t σ) (fun _ => length_lt_of_mem_sentStrings hinput' hσ')
      (length_sentStrings_lt t' σ') h
  rw [sentStrings, sentStrings] at hstrings
  obtain ⟨hfields, hsigned⟩ :=
    List.append_inj hstrings ((length_strings t).trans (length_strings t').symm)
  have hv := Rlp.isNumeral_shortest (recoveryNumber t.chainId σ.odd)
  rw [(List.cons.inj hsigned).1] at hv
  have hrecovery := hv.unique (Rlp.isNumeral_shortest _)
  have hchain : t.chainId = t'.chainId := by
    have hodd := σ.odd.toNat_lt
    have hodd' := σ'.odd.toNat_lt
    rw [recoveryNumber_eq, recoveryNumber_eq] at hrecovery
    apply BitVec.eq_of_toNat_eq
    omega
  exact t.tells_strings.unique (hfields ▸ t'.tells_strings) hchain

/-- What is signed and what is sent for a transaction tell it, and tell it from every other. -/
structure IsFaithful (t : LegacyTransaction) (key : SecretKey) : Prop where
  /-- What is signed is the hash of a list of nine strings: the transaction, its chain, and two
  empty ones. -/
  signed : ∃ strings chainId,
    t.digest = keccak256 (Rlp.encodeStrings (strings ++ [chainId, [], []])) ∧
      t.Tells strings ∧ Rlp.IsNumeral chainId t.chainId.toNat
  /-- What is sent is the writing of one list, of nine strings, and is read as such: the
  transaction, its chain in one number with the parity of the signature, and the two numbers of the
  signature. -/
  sent : ∃ strings v r s,
    t.sign key = Rlp.encodeStrings (strings ++ [v, r, s]) ∧
      ((t.sign key).length < 2 ^ 64 → Rlp.strings? (t.sign key) = some (strings ++ [v, r, s])) ∧
      (∀ items : List Bytes, (∀ item ∈ items, item.length < 2 ^ 64) → items.length < 256 →
        Rlp.encodeStrings items = t.sign key → items = strings ++ [v, r, s]) ∧
      t.Tells strings ∧
      Rlp.IsNumeral v (35 + 2 * t.chainId.toNat + (key.sign t.digest).odd.toNat) ∧
      (v.toNat - 35) / 2 = t.chainId.toNat ∧
      decide ((v.toNat - 35) % 2 = 1) = (key.sign t.digest).odd ∧
      Rlp.IsNumeral r (key.sign t.digest).r ∧ Rlp.IsNumeral s (key.sign t.digest).s
  /-- No other transaction is sent in the same way, with whatever key it is signed. -/
  distinct : ∀ (t' : LegacyTransaction) (key' : SecretKey), t'.input.length < 2 ^ 64 →
    t'.sign key' = t.sign key → t' = t

/-- The chain and the parity can be told from the number that carries them. -/
theorem recoveryNumber_sub (chainId : ChainId) (odd : Bool) :
    (recoveryNumber chainId odd - 35) / 2 = chainId.toNat ∧
      decide ((recoveryNumber chainId odd - 35) % 2 = 1) = odd := by
  rw [recoveryNumber_eq, Nat.add_assoc, Nat.add_sub_cancel_left]
  constructor
  · have hodd := odd.toNat_lt
    omega
  · rw [Nat.mul_add_mod]
    cases odd <;> rfl

/-- Every transaction whose input has a length of 64 bits is sent as it is. -/
theorem sign_isFaithful (t : LegacyTransaction) (key : SecretKey) (h : t.input.length < 2 ^ 64) :
    t.IsFaithful key where
  signed := ⟨t.strings, _, t.digest_eq, t.tells_strings, Rlp.isNumeral_shortest _⟩
  sent := by
    have hv := recoveryNumber_sub t.chainId (key.sign t.digest).odd
    refine ⟨t.strings, _, _, _, t.encode_eq _, fun hlength => ?_,
      fun items hitems hcount hsent => ?_, t.tells_strings, ?_, ?_, ?_,
      Rlp.isNumeral_shortest _, Rlp.isNumeral_shortest _⟩
    · rw [sign, encode_eq] at hlength ⊢
      exact Rlp.strings?_encodeStrings hlength
    · exact Rlp.encodeStrings_injective hitems hcount
        (fun _ => length_lt_of_mem_sentStrings h (key.sign_lt t.digest))
        (t.length_sentStrings_lt (key.sign t.digest)) hsent
    · rw [← recoveryNumber_eq]
      exact Rlp.isNumeral_shortest _
    · rw [Bytes.toNat_shortest, hv.1]
    · rw [Bytes.toNat_shortest, hv.2]
  distinct t' key' h' hsent :=
    eq_of_encode_eq h' (key'.sign_lt t'.digest) h (key.sign_lt t.digest) hsent

/-- A transaction on the chain with the greatest id, whose number `v` does not fit 64 bits. -/
theorem sign_isFaithful_lastChain :
    let t : LegacyTransaction :=
      { chainId := BitVec.allOnes 64, nonce := 0, target := 0xdead, value := 128, input := [0x7f]
        fee := { gasLimit := 21000, gasPrice := 0 } }
    let key : SecretKey := ⟨1, Nat.one_pos, Curve.one_lt_order⟩
    t.input.length < 2 ^ 64 ∧ t.IsFaithful key :=
  ⟨by decide, sign_isFaithful _ _ (by decide)⟩

end LegacyTransaction

end CrossCall
