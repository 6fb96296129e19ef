import VmMonitor.Machine.Config.Printer
import VmMonitor.Machine.Config.Reader
import VmMonitor.Proofs.Json.Written
import VmMonitor.Proofs.Machine.MacText

/-!
An Ethernet address comes back from the text that shows it. A file has that text as a string, so the
address comes back from a file too, and with it the layout of a network device.
-/

namespace VmMonitor

open Json (Bounds Value bind_read)
open Json.Shape (fills_member read_object)

namespace MacAddress

theorem digitChar_listed : ∀ n < 16, (Nat.digitChar n, n) ∈ hexadecimal := by decide

theorem group_plain (b : UInt8) : Plain (group b) b := by
  have inside := b.toNat_lt
  have high := digitChar_listed (b.toNat / 16) (by omega)
  have low := digitChar_listed (b.toNat % 16) (by omega)
  refine ⟨.inr rfl, [b.toNat / 16, b.toNat % 16], .cons high (.cons low .nil), ?_⟩
  simp only [List.reverse_cons, List.reverse_nil, List.nil_append, List.singleton_append,
    Nat.ofDigits_cons, Nat.ofDigits_nil]
  omega

theorem joined_groups (bs : List UInt8) : joined bs = [':'].intercalate (bs.map group) := by
  induction bs with
  | nil => rfl
  | cons b rest ih =>
      cases rest with
      | nil => simp [joined]
      | cons c rest =>
          rw [joined, ih, List.map_cons, List.map_cons, List.map_cons, List.intercalate_cons_cons]
          · simp
          · exact nofun

theorem render_plain (a : MacAddress) : Written Plain a.render a := by
  refine ⟨a.bytes.map group, ?_, joined_groups a.bytes⟩
  rw [List.forall₂_map_left_iff]
  exact List.forall₂_same.mpr fun b _ => group_plain b

theorem parse_render (a : MacAddress) : parse a.render = .ok a :=
  (plain_written.mp (render_plain a)).2

end MacAddress

namespace MachineConfig

variable {rest : List Char}

theorem word_read {α : Type} (ofNat : Nat → α) (type : String) {n largest : Nat}
    (fits : n ≤ largest) (word : largest ≤ Json.largestWord) (bounds : Bounds rest) :
    (do return ofNat (← Json.unsigned type largest) : Json.Reader α)
      ((Value.number n).render.toList ++ rest) = .ok (ofNat n, rest) :=
  bind_read (Json.unsigned_read type fits word bounds)

theorem word64_read (w : UInt64) (bounds : Bounds rest) :
    word64 ((wordValue w).render.toList ++ rest) = .ok (w, rest) := by
  have fits : w.toNat ≤ UInt64.size - 1 := Nat.le_sub_one_of_lt w.toNat_lt
  have read := word_read UInt64.ofNat "u64" fits (Nat.le_refl _) bounds
  rwa [UInt64.ofNat_toNat] at read

theorem word32_read (w : UInt32) (bounds : Bounds rest) :
    word32 ((Value.number w.toNat).render.toList ++ rest) = .ok (w, rest) := by
  have fits : w.toNat ≤ UInt32.size - 1 := Nat.le_sub_one_of_lt w.toNat_lt
  have read := word_read UInt32.ofNat "u32" fits (by decide) bounds
  rwa [UInt32.ofNat_toNat] at read

theorem word16_read (w : UInt16) (bounds : Bounds rest) :
    word16 ((Value.number w.toNat).render.toList ++ rest) = .ok (w, rest) := by
  have fits : w.toNat ≤ UInt16.size - 1 := Nat.le_sub_one_of_lt w.toNat_lt
  have read := word_read UInt16.ofNat "u16" fits (by decide) bounds
  rwa [UInt16.ofNat_toNat] at read

-- A string is read as the address that its characters are parsed as.
theorem macText_string (s : String) (a : MacAddress) (rest : List Char) :
    macText ((Value.text s).render.toList ++ rest) = .ok (a, rest) ↔
      MacAddress.parse s.toList = .ok a := by
  unfold macText
  rw [bind_read (Json.string_read s rest)]
  cases MacAddress.parse s.toList with
  | error e => exact ⟨nofun, nofun⟩
  | ok b =>
      constructor
      · intro read
        cases read
        rfl
      · intro same
        cases same
        rfl

theorem macText_read (a : MacAddress) (rest : List Char) :
    macText (a.toJson.render.toList ++ rest) = .ok (a, rest) := by
  rw [MacAddress.toJson, macText_string, String.toList_ofList]
  exact a.parse_render

-- Every member of a written layout is read as what was written, the address among them.
theorem net_read (c : NetConfig) (rest : List Char) :
    netShape.read emptyNet (c.toJson.render.toList ++ rest) = .ok (c, rest) := by
  have fills : Json.Fills netShape.enter ⟨emptyNet, []⟩
      [("base", wordValue c.base), ("irq", .number c.irq.toNat),
        ("queue_size", .number c.queueSize.toNat), ("mac", c.mac.toJson)]
      ⟨c, ["mac", "queue_size", "irq", "base"]⟩ := by
    refine fills_member rfl rfl (fun _ bounds => bind_read (word64_read c.base bounds)) ?_
    refine fills_member rfl rfl (fun _ bounds => bind_read (word32_read c.irq bounds)) ?_
    refine fills_member rfl rfl (fun _ bounds => bind_read (word16_read c.queueSize bounds)) ?_
    refine fills_member rfl rfl (fun rest _ => bind_read (macText_read c.mac rest)) ?_
    exact .none _
  exact read_object fills rfl rest

end MachineConfig

end VmMonitor
