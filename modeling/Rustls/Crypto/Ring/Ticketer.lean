import Rustls.Lib.Aead
import Rustls.Lib.Codec

/-!
The ticketer of the *ring* provider: `AeadTicketer` of
`crypto/ring/ticketer.rs`, which seals a session into a ticket with
ChaCha20-Poly1305 under a random key and a random key name.

A ticket is the key name (16 bytes), a random nonce (12 bytes), and the
message sealed under the key with the key name as associated data, its tag
appended.  The ticketer remembers the longest ticket it has made
(`maximum_ciphertext_len`, an atomic raised with `fetch_max`); `decrypt`
refuses anything longer before any cryptography, then checks the key name,
then opens.

The longest length only grows, so a ticket the ticketer made is opened to its
message by that ticketer after any later sequence of calls, and by no
ticketer with another key name (`issued_tickets_open`).

The cipher is any one with the laws of `Aead.Cipher.Correct`, and the bytes
`SystemRandom::fill` draws are arguments, `none` when it fails.  Sealing is
total here: ring refuses only inputs longer than the cipher's limit.
-/

namespace Rustls

/-- `try_split_at` of `polyfill.rs`: the first `mid` bytes and the rest, when
there are that many. -/
def trySplitAt (slice : List UInt8) (mid : Nat) : Option (List UInt8 × List UInt8) :=
  Bytes.takeExact mid slice

/-- `AeadTicketer`, with keys of type `K`. -/
structure AeadTicketer (K : Type) where
  key : K
  keyName : Vector UInt8 16
  lifetime : UInt32
  maximumCiphertextLen : Nat

namespace AeadTicketer

variable {K : Type} (cipher : Aead.Cipher K)

/-- `AeadTicketer::new`, from the random key and key name. -/
def new (key : Option K) (keyName : Option (Vector UInt8 16)) : Option (AeadTicketer K) :=
  match key, keyName with
  | some key, some keyName => some ⟨key, keyName, 60 * 60 * 12, 0⟩
  | _, _ => none

/-- `encrypt`, with the nonce drawn for it: the key name, the nonce and the
sealed message; the longest ticket is remembered. -/
def encrypt (t : AeadTicketer K) (nonce : Option (Vector UInt8 12)) (message : List UInt8) :
    Option (List UInt8) × AeadTicketer K :=
  match nonce with
  | none => (none, t)
  | some nonce =>
    let aad := t.keyName.toList
    let ciphertext := t.keyName.toList ++ nonce.toList ++ cipher.aeadSeal t.key nonce.toList aad message
    (some ciphertext, { t with maximumCiphertextLen := max t.maximumCiphertextLen ciphertext.length })

/-- `decrypt`. -/
def decrypt (t : AeadTicketer K) (ciphertext : List UInt8) : Option (List UInt8) :=
  if ciphertext.length > t.maximumCiphertextLen then none
  else
    (trySplitAt ciphertext 16).bind fun (allegedKeyName, ciphertext) =>
      (trySplitAt ciphertext 12).bind fun (nonce, ciphertext) =>
        if t.keyName.toList ≠ allegedKeyName then none
        else cipher.aeadOpen t.key nonce allegedKeyName ciphertext

/-! ### Runs of calls -/

/-- A call on the ticketer: `encrypt`, with the nonce drawn for it, or
`decrypt`. -/
inductive Call
  | encrypt (nonce : Option (Vector UInt8 12)) (message : List UInt8)
  | decrypt (ciphertext : List UInt8)

/-- The ticketer after a call: only `encrypt` changes it. -/
def step (t : AeadTicketer K) : Call → AeadTicketer K
  | .encrypt nonce message => (t.encrypt cipher nonce message).2
  | .decrypt _ => t

/-- The ticketer after a run of calls. -/
def run (t : AeadTicketer K) (calls : List Call) : AeadTicketer K :=
  calls.foldl (step cipher) t

/-- The tickets a run of calls makes, each with its message. -/
def issued : AeadTicketer K → List Call → List (List UInt8 × List UInt8)
  | _, [] => []
  | t, .encrypt nonce message :: calls =>
    ((t.encrypt cipher nonce message).1.map (·, message)).toList ++
      issued (t.encrypt cipher nonce message).2 calls
  | t, .decrypt _ :: calls => issued t calls

/-- What a ticket made by `t` is: its key name, a nonce and the message sealed
under its key, no longer than the longest ticket `t` has made. -/
structure Made (t : AeadTicketer K) (ticket message : List UInt8) : Prop where
  form : ∃ nonce : Vector UInt8 12, ticket = t.keyName.toList ++ nonce.toList ++
    cipher.aeadSeal t.key nonce.toList t.keyName.toList message
  fits : ticket.length ≤ t.maximumCiphertextLen

/-- A call keeps the key and the key name, and never lowers the longest
length. -/
theorem step_keeps (t : AeadTicketer K) (call : Call) :
    (step cipher t call).key = t.key ∧ (step cipher t call).keyName = t.keyName ∧
      t.maximumCiphertextLen ≤ (step cipher t call).maximumCiphertextLen := by
  cases call with
  | encrypt nonce message =>
    cases nonce with
    | none => exact ⟨rfl, rfl, le_refl _⟩
    | some nonce => exact ⟨rfl, rfl, le_max_left _ _⟩
  | decrypt ciphertext => exact ⟨rfl, rfl, le_refl _⟩

theorem keyName_run (t : AeadTicketer K) (calls : List Call) : (run cipher t calls).keyName = t.keyName := by
  induction calls generalizing t with
  | nil => rfl
  | cons call calls ih => exact (ih (step cipher t call)).trans (step_keeps cipher t call).2.1

theorem Made.step {t : AeadTicketer K} {ticket message : List UInt8} (h : Made cipher t ticket message)
    (call : Call) : Made cipher (step cipher t call) ticket message := by
  obtain ⟨hkey, hname, hmax⟩ := step_keeps cipher t call
  obtain ⟨nonce, hform⟩ := h.form
  refine ⟨⟨nonce, ?_⟩, le_trans h.fits hmax⟩
  rw [hkey, hname]
  exact hform

theorem Made.run {t : AeadTicketer K} {ticket message : List UInt8} (h : Made cipher t ticket message)
    (calls : List Call) : Made cipher (run cipher t calls) ticket message := by
  induction calls generalizing t with
  | nil => exact h
  | cons call calls ih => exact ih (h.step cipher call)

/-- A ticket `encrypt` returns is made by the ticketer it leaves. -/
theorem made_encrypt {t : AeadTicketer K} {nonce : Option (Vector UInt8 12)} {message ticket : List UInt8}
    (h : (t.encrypt cipher nonce message).1 = some ticket) :
    Made cipher (t.encrypt cipher nonce message).2 ticket message := by
  cases nonce with
  | none => cases h
  | some nonce =>
    cases h
    exact ⟨⟨nonce, rfl⟩, le_max_right _ _⟩

/-- Every ticket of a run is made by the ticketer the run leaves. -/
theorem made_of_mem_issued {t : AeadTicketer K} {calls : List Call} {ticket message : List UInt8}
    (h : (ticket, message) ∈ issued cipher t calls) : Made cipher (run cipher t calls) ticket message := by
  induction calls generalizing t with
  | nil => cases h
  | cons call calls ih =>
    cases call with
    | encrypt nonce message' =>
      rcases List.mem_append.mp h with hnew | hlater
      · -- made by this call, kept by the rest of the run
        obtain ⟨ticket', hticket, hpair⟩ : ∃ ticket', (t.encrypt cipher nonce message').1 = some ticket' ∧
            (ticket', message') = (ticket, message) := by
          simpa using hnew
        obtain ⟨rfl, rfl⟩ := Prod.mk.inj hpair
        exact (made_encrypt cipher hticket).run cipher calls
      · exact ih hlater
    | decrypt ciphertext => exact ih h

/-- The ticketer that made a ticket opens it. -/
theorem decrypt_of_made (hcorrect : cipher.Correct) {t : AeadTicketer K} {ticket message : List UInt8}
    (h : Made cipher t ticket message) : t.decrypt cipher ticket = some message := by
  obtain ⟨nonce, rfl⟩ := h.form
  have hfits := h.fits
  unfold decrypt trySplitAt
  rw [if_neg (Nat.not_lt.mpr hfits), List.append_assoc,
    Bytes.takeExact_append t.keyName.length_toList, Option.bind_some]
  dsimp only
  rw [Bytes.takeExact_append nonce.length_toList, Option.bind_some]
  dsimp only
  rw [if_neg (not_not.mpr rfl), hcorrect.open_seal]

/-- A ticketer with another key name opens no ticket of this one. -/
theorem decrypt_of_keyName_ne {t other : AeadTicketer K} {ticket message : List UInt8}
    (h : Made cipher t ticket message) (hname : other.keyName ≠ t.keyName) :
    other.decrypt cipher ticket = none := by
  obtain ⟨nonce, rfl⟩ := h.form
  have hne : other.keyName.toList ≠ t.keyName.toList := fun he => hname (Vector.toList_inj.mp he)
  unfold decrypt trySplitAt
  split_ifs
  · rfl
  · rw [List.append_assoc, Bytes.takeExact_append t.keyName.length_toList, Option.bind_some]
    dsimp only
    rw [Bytes.takeExact_append nonce.length_toList, Option.bind_some]
    dsimp only
    rw [if_pos hne]

/-- **Issued tickets open.**  Every ticket a run of calls makes is opened to
its message by the ticketer after any later calls, and by no ticketer with
another key name. -/
theorem issued_tickets_open (hcorrect : cipher.Correct) (t : AeadTicketer K) (calls later : List Call)
    {ticket message : List UInt8} (h : (ticket, message) ∈ issued cipher t calls) :
    (run cipher t (calls ++ later)).decrypt cipher ticket = some message ∧
      ∀ other : AeadTicketer K, other.keyName ≠ t.keyName → other.decrypt cipher ticket = none := by
  have hmade := made_of_mem_issued cipher h
  have hlater : run cipher t (calls ++ later) = run cipher (run cipher t calls) later := List.foldl_append
  refine ⟨?_, fun other hname => ?_⟩
  · rw [hlater]
    exact decrypt_of_made cipher hcorrect (hmade.run cipher later)
  · rw [← keyName_run cipher t calls] at hname
    exact decrypt_of_keyName_ne cipher hmade hname

/-- A ticketer under the key name `07 … 07`, which has made no ticket yet. -/
def sevensTicketer : AeadTicketer Unit :=
  ⟨(), Vector.replicate 16 7, 60 * 60 * 12, 0⟩

theorem sevens_ticket_opens_after_a_refused_call :
    (run (Aead.marking [] []) sevensTicketer
        ([.encrypt (some (Vector.replicate 12 1)) [5]] ++ [.decrypt [0]])).decrypt (Aead.marking [] [])
        (List.replicate 16 7 ++ List.replicate 12 1 ++ ([5] ++ List.replicate 16 0)) = some [5] ∧
      ∀ other : AeadTicketer Unit, other.keyName ≠ sevensTicketer.keyName →
        other.decrypt (Aead.marking [] []) (List.replicate 16 7 ++ List.replicate 12 1 ++ ([5] ++ List.replicate 16 0)) =
          none :=
  issued_tickets_open (Aead.marking [] []) (Aead.marking_correct [] []) sevensTicketer
    [.encrypt (some (Vector.replicate 12 1)) [5]] [.decrypt [0]] (by decide)

end AeadTicketer

end Rustls
