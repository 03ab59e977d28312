import AspRust.Foundation.RelativeText
import AspRust.Foundation.Utf8
import AspRust.Verification.Model

/-!
# Task fingerprints

A task is recognised across runs by its fingerprint: a 64-bit hash of a text that
lists what the task is about, one `label=value;` after another.  Receipts and waivers
name the fingerprint, so whatever the text keeps apart they keep apart too, and nothing
else.

The owner is kept as it was written, because the text shows the spelling of what follows
the package root and not the components.

### Design notes

The hash is a 64-bit FNV-1a and is computed here as the source does, byte by byte.  Nothing
is assumed of it: that two texts have one hash is a possibility that the theorems name
(`Collide`), and `verificationTaskFingerprint_eq_iff_collide` says that it is the only way
in which tasks with different texts come to one fingerprint.

What the text has of a path is what is shown: the package relative to the project, the
owner relative to the package, and backslashes as slashes.
-/

namespace AspRust.Verification

open AspRust.Foundation

/-- What a fingerprint is computed from. -/
structure VerificationFingerprintInput where
  kind : RustVerificationTaskKind
  projectRoot : Path
  packageRoot : Path
  /-- The owner as it was written, an absolute text. -/
  ownerPath : String
  line : Option ℕ
  requiredEvidence : List RustVerificationRequirement
  evidence : List RustVerificationEvidence
  skillContractMaterial : Option String
deriving DecidableEq

namespace VerificationFingerprintInput

variable (source : VerificationFingerprintInput)

/-- The package root below the project root, or as it stands. -/
def relativePackage : String :=
  match Path.stripPrefix? source.projectRoot source.packageRoot with
  | some rest => rest.text
  | none => source.packageRoot.display

/-- The owner below the package root, or as it stands. -/
def relativeOwner : String :=
  (Path.relativeText? source.packageRoot source.ownerPath).getD source.ownerPath

/-- A path as fingerprints show it: backslashes become slashes. -/
def shownPath (text : String) : List Char := replaceChar '\\' '/' text.toList

/-- The label of the package; the project root itself is `.`. -/
def packageLabel : List Char :=
  if shownPath source.relativePackage = [] then ['.'] else shownPath source.relativePackage

/-- The field of a line, if there is one. -/
def lineMaterial : List Char :=
  match source.line with
  | some line => "line=".toList ++ Nat.toDigits 10 line ++ [';']
  | none => []

/-- The fields of the required evidence: the keys alone. -/
def requirementMaterial : List Char :=
  source.requiredEvidence.flatMap fun requirement =>
    "requires=".toList ++ requirement.key.toList ++ [';']

/-- The fields of the evidence. -/
def evidenceMaterial : List Char :=
  source.evidence.flatMap fun fact => fact.label.toList ++ '=' :: (fact.value.toList ++ [';'])

/-- The field of the skill contract, if there is one. -/
def skillMaterial : List Char :=
  match source.skillContractMaterial with
  | some contract => "skill_contract=".toList ++ contract.toList ++ [';']
  | none => []

/-- The text that is hashed. -/
def material : List Char :=
  "kind=".toList ++ source.kind.key.toList ++ ";package=".toList ++ source.packageLabel ++
    ";owner=".toList ++ shownPath source.relativeOwner ++ [';'] ++ source.lineMaterial ++
    source.requirementMaterial ++ source.evidenceMaterial ++ source.skillMaterial

end VerificationFingerprintInput

/-- One round of the hash: a byte is mixed in and the product wraps. -/
def fnvRound (hash : UInt64) (byte : UInt8) : UInt64 :=
  (hash ^^^ byte.toUInt64) * 0x00000100000001b3

/-- The 64-bit FNV-1a hash. -/
def fnv1a64 (bytes : List UInt8) : UInt64 := bytes.foldl fnvRound 0xcbf29ce484222325

/-- Sixteen lower-case hexadecimal digits. -/
def hex16 (value : UInt64) : List Char :=
  (List.range 16).map fun i => Nat.digitChar (value.toNat / 16 ^ (15 - i) % 16)

/-- The fingerprint of a task. -/
def verificationTaskFingerprint (source : VerificationFingerprintInput) : String :=
  String.ofList ("rustv:".toList ++ hex16 (fnv1a64 (utf8 source.material)))

/-- Two different texts with one hash. -/
def Collide (first second : VerificationFingerprintInput) : Prop :=
  first.material ≠ second.material ∧
    fnv1a64 (utf8 first.material) = fnv1a64 (utf8 second.material)

/-! ## Fingerprints are as good as the hash -/

theorem eq_of_digits_eq {m n : ℕ} (count : ℕ) (hm : m < 16 ^ count) (hn : n < 16 ^ count)
    (h : ∀ i < count, m / 16 ^ i % 16 = n / 16 ^ i % 16) : m = n := by
  induction count generalizing m n with
  | zero => simp_all
  | succ count ih =>
      have hlow : m % 16 = n % 16 := by
        simpa using h 0 (Nat.succ_pos count)
      have hhigh : m / 16 = n / 16 := by
        rw [pow_succ] at hm hn
        refine ih (by omega) (by omega) fun i hi => ?_
        have hdigit := h (i + 1) (by omega)
        rwa [pow_succ, mul_comm, ← Nat.div_div_eq_div_mul, ← Nat.div_div_eq_div_mul] at hdigit
      omega

theorem hex16_injective : Function.Injective hex16 := by
  intro first second h
  have hdigits : ∀ i < 16, first.toNat / 16 ^ i % 16 = second.toNat / 16 ^ i % 16 := by
    intro i hi
    have hat := congrArg (fun digits => digits[15 - i]?) h
    have hlt : 15 - i < 16 := by omega
    have hback : 15 - (15 - i) = i := by omega
    simp only [hex16, List.getElem?_map, List.getElem?_range hlt, Option.map_some,
      Option.some.injEq, hback] at hat
    exact digitChar_injective (Nat.mod_lt _ (by omega)) (Nat.mod_lt _ (by omega)) hat
  have hbound : (16 : ℕ) ^ 16 = 2 ^ 64 := rfl
  refine UInt64.toNat_inj.mp (eq_of_digits_eq 16 ?_ ?_ hdigits)
  · rw [hbound]
    exact first.toNat_lt
  · rw [hbound]
    exact second.toNat_lt

/-- The text of a hash determines it. -/
theorem fingerprintText_injective :
    Function.Injective fun hash => String.ofList ("rustv:".toList ++ hex16 hash) := by
  intro first second h
  exact hex16_injective (List.append_cancel_left (String.ofList_injective h))

/-- Two tasks share a fingerprint exactly when the hashes of their materials agree. -/
theorem verificationTaskFingerprint_eq_iff {first second : VerificationFingerprintInput} :
    verificationTaskFingerprint first = verificationTaskFingerprint second ↔
      fnv1a64 (utf8 first.material) = fnv1a64 (utf8 second.material) :=
  fingerprintText_injective.eq_iff

/-- Two tasks share their fingerprint when their texts agree or collide. -/
theorem verificationTaskFingerprint_eq_iff_collide {first second : VerificationFingerprintInput} :
    verificationTaskFingerprint first = verificationTaskFingerprint second ↔
      first.material = second.material ∨ Collide first second := by
  rw [verificationTaskFingerprint_eq_iff]
  constructor
  · intro hhash
    by_cases hmaterial : first.material = second.material
    · exact Or.inl hmaterial
    · exact Or.inr ⟨hmaterial, hhash⟩
  · rintro (hmaterial | ⟨-, hhash⟩)
    · rw [hmaterial]
    · exact hhash

example : fnv1a64 (utf8 "a".toList) = 0xaf63dc4c8601ec8c := by decide

end AspRust.Verification
