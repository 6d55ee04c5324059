import LeastGrant.Proofs.JsonText
import LeastGrant.Proofs.WellFormedJson

/-! Texts of values that are read. The reader joins halves of a surrogate pair that stand side by side,
so every text and every name that it gives is read back as it is. -/
namespace LeastGrant.Json

open Text

mutual
/-- All texts and names in a value are read back as they are. -/
def Settled : Json → Prop
  | str s => asRead s = s
  | arr items => SettledItems items
  | obj fields => SettledFields fields
  | _ => True

def SettledItems : List Json → Prop
  | [] => True
  | item :: rest => Settled item ∧ SettledItems rest

def SettledFields : List (String × Json) → Prop
  | [] => True
  | (name, value) :: rest => asRead name = name ∧ Settled value ∧ SettledFields rest
end

/-! ## Strings -/

theorem hexValue?_lt {c : Char} {value : Nat} (h : hexValue? c = some value) : value < 16 := by
  have codes (low high : Char) (inside : low ≤ c ∧ c ≤ high) :
      low.toNat ≤ c.toNat ∧ c.toNat ≤ high.toNat := inside
  unfold hexValue? at h
  split at h
  · rename_i digit
    have bounds : 48 ≤ c.toNat ∧ c.toNat ≤ 57 := codes '0' '9' digit
    cases h
    omega
  split at h
  · rename_i digit
    have bounds : 97 ≤ c.toNat ∧ c.toNat ≤ 102 := codes 'a' 'f' digit
    cases h
    omega
  split at h
  · rename_i digit
    have bounds : 65 ≤ c.toNat ∧ c.toNat ≤ 70 := codes 'A' 'F' digit
    cases h
    omega
  · cases h

theorem unit?_lt {a b c d : Char} {unit : Nat} (h : unit? a b c d = some unit) : unit < 0x10000 := by
  simp only [unit?, Option.bind_eq_bind, Option.bind_eq_some_iff] at h
  obtain ⟨w, first, x, second, y, third, z, fourth, same⟩ := h
  have bounds := And.intro (hexValue?_lt first) (And.intro (hexValue?_lt second)
    (And.intro (hexValue?_lt third) (hexValue?_lt fourth)))
  cases same
  omega

theorem ok_of_prepend {code : Nat} {reading : Reading (List Nat)} {codes : List Nat}
    {rest : List Char} (h : prepend code reading = .ok (codes, rest)) :
    ∃ others, codes = code :: others ∧ reading = .ok (others, rest) := by
  cases reading with
  | error fault => cases h
  | ok found =>
    cases h
    exact ⟨found.1, rfl, rfl⟩

theorem readCodes_lt {opening : Nat} {text rest : List Char} {row : List Nat}
    (reads : readCodes opening text = .ok (row, rest)) : ∀ code ∈ row, code < 0x110000 := by
  fun_induction readCodes opening text generalizing row with
  | case2 tail =>
    cases reads
    exact List.forall_mem_nil _
  | case6 a b c d tail code value _ ih =>
    obtain ⟨others, rfl, after⟩ := ok_of_prepend reads
    have small := unit?_lt value
    exact List.forall_mem_cons.mpr ⟨by omega, ih after⟩
  | case9 c tail _ _ e means ih =>
    obtain ⟨others, rfl, after⟩ := ok_of_prepend reads
    exact List.forall_mem_cons.mpr ⟨toNat_lt e, ih after⟩
  | case11 c tail _ _ _ _ _ _ ih =>
    obtain ⟨others, rfl, after⟩ := ok_of_prepend reads
    exact List.forall_mem_cons.mpr ⟨toNat_lt c, ih after⟩
  | _ => cases reads

theorem asRead_of_readString {opening : Nat} {text rest name : List Char}
    (reads : readString opening text = .ok (name, rest)) :
    asRead (String.ofList name) = String.ofList name := by
  unfold readString at reads
  split at reads
  · rename_i row after found
    cases reads
    rw [asRead_eq_self, String.toList_ofList]
    exact ⟨joinPairs row, rfl, joinPairs_lt (readCodes_lt found), unpaired_joinPairs row⟩
  · cases reads

/-! ## Values -/

theorem settledFields_iff {fields : Fields} :
    SettledFields fields ↔ ∀ field ∈ fields, asRead field.1 = field.1 ∧ field.2.Settled := by
  induction fields with
  | nil => simp [SettledFields]
  | cons field rest ih => simp [SettledFields, ih, and_assoc]

theorem SettledFields.put {fields : Fields} {name : String} {value : Json}
    (old : SettledFields fields) (kept : asRead name = name) (new : value.Settled) :
    SettledFields (fields.put name value) := by
  rw [settledFields_iff] at old ⊢
  intro field member
  rw [Fields.put_eq] at member
  rcases mem_of_mem_putByKey Prod.fst member with rfl | before
  · exact ⟨kept, new⟩
  · exact old field before

theorem keptByReaders_settled : KeptByReaders Settled SettledItems SettledFields where
  word := by
    intro value word
    cases value with
    | str text => cases word
    | arr items => cases word
    | obj fields => cases word
    | _ => trivial
  string := asRead_of_readString
  nil := trivial
  cons first others := ⟨first, others⟩
  arr items := items
  empty := trivial
  put old kept new := old.put kept new
  obj fields := fields

/-- Every text in a value that was read is read back as it is. -/
theorem settled_of_read {text : List Char} {value : Json} (h : read text = .ok value) :
    value.Settled :=
  keptByReaders_settled.of_read h

theorem readsBack_str {text : String} : (str text).ReadsBack ↔ asRead text = text := by
  constructor
  · intro back
    exact settled_of_read back
  · intro same
    exact read_render rfl same

end LeastGrant.Json
