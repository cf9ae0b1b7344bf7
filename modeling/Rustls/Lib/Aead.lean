import Mathlib

/-!
An authenticated cipher with associated data, seen from outside.

A record layer relies on three facts of its cipher.  Sealing appends a tag of
fixed length.  Opening what was sealed under the same key, nonce and
associated data gives the plaintext back.  And a sealed text opens under no
other nonce and associated data.

The first two are laws of the cipher (`Cipher.Correct`).  The third is stated
of one sealed text at a time (`Cipher.Binds`): a cipher whose tag has a fixed
length cannot separate every pair of nonce and associated data at once, since
there are more such pairs than tags, so asking it of all texts together would
be a hypothesis no cipher meets.  `Cipher.marking` is a cipher that meets both
for a chosen sealed text, which is what shows the hypotheses can hold.
-/

namespace Aead

/-- An AEAD over byte strings, with keys of type `K`. -/
structure Cipher (K : Type) where
  aeadSeal : K → List UInt8 → List UInt8 → List UInt8 → List UInt8
  aeadOpen : K → List UInt8 → List UInt8 → List UInt8 → Option (List UInt8)
  tagLen : Nat

variable {K : Type}

/-- The functional laws: a fixed tag, and opening undoes sealing. -/
structure Cipher.Correct (c : Cipher K) : Prop where
  length_seal : ∀ k n ad p, (c.aeadSeal k n ad p).length = p.length + c.tagLen
  open_seal : ∀ k n ad p, c.aeadOpen k n ad (c.aeadSeal k n ad p) = some p

/-- The text sealed under `n` and `ad` opens under no other nonce and data. -/
def Cipher.Binds (c : Cipher K) (k : K) (n ad p : List UInt8) : Prop :=
  ∀ n' ad', (n', ad') ≠ (n, ad) → c.aeadOpen k n' ad' (c.aeadSeal k n ad p) = none

theorem Cipher.Binds.open_of_ne_nonce {c : Cipher K} {k : K} {n ad p n' ad' : List UInt8}
    (h : c.Binds k n ad p) (hn : n' ≠ n) : c.aeadOpen k n' ad' (c.aeadSeal k n ad p) = none :=
  h n' ad' (fun he => hn (Prod.mk.inj he).1)

theorem Cipher.Binds.open_of_ne_data {c : Cipher K} {k : K} {n ad p n' ad' : List UInt8}
    (h : c.Binds k n ad p) (had : ad' ≠ ad) : c.aeadOpen k n' ad' (c.aeadSeal k n ad p) = none :=
  h n' ad' (fun he => had (Prod.mk.inj he).2)

/-! ### A cipher that meets the hypotheses -/

/-- Appends a tag of sixteen ones under the chosen nonce and data, and of
sixteen zeros under any other; opening checks the tag it would have written. -/
def marking (n₀ ad₀ : List UInt8) : Cipher Unit where
  aeadSeal _ n ad p := p ++ List.replicate 16 (if n = n₀ ∧ ad = ad₀ then 1 else 0)
  aeadOpen _ n ad c :=
    if 16 ≤ c.length ∧ c.drop (c.length - 16) =
        List.replicate 16 (if n = n₀ ∧ ad = ad₀ then 1 else 0)
    then some (c.take (c.length - 16)) else none
  tagLen := 16

theorem marking_correct (n₀ ad₀ : List UInt8) : (marking n₀ ad₀).Correct where
  length_seal _ _ _ p := by simp [marking]
  open_seal _ n ad p := by simp [marking]

theorem marking_binds (n₀ ad₀ p : List UInt8) : (marking n₀ ad₀).Binds () n₀ ad₀ p := by
  unfold Cipher.Binds
  intro n' ad' hne
  have hne' : ¬ (n' = n₀ ∧ ad' = ad₀) := fun h => hne (by rw [h.1, h.2])
  simp only [marking, and_self, if_true, if_neg hne', List.length_append,
    List.length_replicate, Nat.add_sub_cancel, List.drop_left' (rfl : p.length = p.length)]
  simp

end Aead
