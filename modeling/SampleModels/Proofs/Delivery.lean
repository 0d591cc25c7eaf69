import Mathlib.Control.Monad.Basic
import SampleModels.Generation

/-!
# Delivering a generated file

A receiver with room for so many bytes holds, after a delivery, the beginning of the generated file
that it had room for, however it cuts what it is offered into pieces. Nothing reaches it when
nothing is generated.
-/

namespace SampleModels

theorem Bytes.ofText_append (text more : String) :
    Bytes.ofText (text ++ more) = Bytes.ofText text ++ Bytes.ofText more := by
  simp [Bytes.ofText, String.toUTF8]

namespace Receiver

/-- There is room for so many bytes. -/
def Fits (room? : Option Nat) (size : Nat) : Prop := ∀ room, room? = some room → size ≤ room

/-- As much of the bytes, from the front, as there is room for. -/
def within : Option Nat → Bytes → Bytes
  | none, bytes => bytes
  | some room, bytes => bytes.take room

/-- The room left after so many bytes. -/
def roomAfter (room? : Option Nat) (size : Nat) : Option Nat := room?.map (· - size)

theorem fits_append_iff (room? : Option Nat) (bytes more : Bytes) :
    Fits room? (bytes ++ more).length ↔
      Fits room? bytes.length ∧ Fits (roomAfter room? bytes.length) more.length := by
  cases room? with
  | none => simp [Fits, roomAfter]
  | some room =>
    simp only [Fits, roomAfter, Option.map_some, Option.some.injEq, forall_eq', List.length_append]
    omega

theorem within_of_fits {room? : Option Nat} {bytes : Bytes} (h : Fits room? bytes.length) :
    within room? bytes = bytes := by
  cases room? with
  | none => rfl
  | some room => exact List.take_of_length_le (h room rfl)

theorem within_append {room? : Option Nat} {bytes : Bytes} (h : Fits room? bytes.length)
    (more : Bytes) :
    within room? (bytes ++ more) = bytes ++ within (roomAfter room? bytes.length) more := by
  cases room? with
  | none => rfl
  | some room =>
    have hle := h room rfl
    simp [within, roomAfter, List.take_append, List.take_of_length_le hle]

theorem within_append_of_not_fits {room? : Option Nat} {bytes : Bytes}
    (h : ¬ Fits room? bytes.length) (more : Bytes) :
    within room? (bytes ++ more) = within room? bytes := by
  cases room? with
  | none => exact absurd (by simp [Fits]) h
  | some room =>
    have hlt : room ≤ bytes.length := by
      simp only [Fits, Option.some.injEq, forall_eq'] at h
      omega
    exact List.take_append_of_le_length hlt

theorem roomAfter_add (room? : Option Nat) (size more : Nat) :
    roomAfter (roomAfter room? size) more = roomAfter room? (size + more) := by
  cases room? <;> simp [roomAfter, Nat.sub_sub]

variable {σ : Type} [Receiver σ]

/-- The receiver takes what it is offered, in pieces of any size, as long as it has room, and then
refuses: it fails, or takes none of the bytes. -/
structure Bounded (taken : σ → Bytes) (room? : σ → Option Nat) : Prop where
  takes : ∀ s bytes, bytes ≠ [] → room? s ≠ some 0 → ∃ after n, offer s bytes = (after, .ok n) ∧
    0 < n ∧ n ≤ bytes.length ∧ Fits (room? s) n ∧ taken after = taken s ++ bytes.take n ∧
    room? after = roomAfter (room? s) n
  refuses : ∀ s bytes, bytes ≠ [] → room? s = some 0 → ∃ after, taken after = taken s ∧
    (offer s bytes = (after, .ok 0) ∨ ∃ error, offer s bytes = (after, .error error))
  flushes : ∀ s, taken (flush s).1 = taken s

/-- The receiver has refused bytes, with this error or by taking none of them. -/
def Refused (σ : Type) [Receiver σ] (error : IoError) : Prop :=
  ∃ (s : σ) (bytes : Bytes), (offer s bytes).2 = .error error ∨
    ((offer s bytes).2 = .ok 0 ∧ error = .nothingWritten)

variable {taken : σ → Bytes} {room? : σ → Option Nat}

/-- What has been taken of bytes, and what is offered next. -/
private theorem take_append_drop_cons {byte : UInt8} {rest : Bytes} {n : Nat}
    (h : n + 1 ≤ (byte :: rest).length) :
    (byte :: rest).take (n + 1) ++ rest.drop n = byte :: rest ∧
      ((byte :: rest).take (n + 1)).length = n + 1 := by
  refine ⟨?_, List.length_take_of_le h⟩
  rw [← List.drop_succ_cons, List.take_append_drop]

/-- Bytes that there is room for are written, whatever the pieces they are taken in. -/
theorem Bounded.write_of_fits (h : Bounded taken room?) {s : σ} {bytes : Bytes}
    (hfit : Fits (room? s) bytes.length) :
    ∃ after, write s bytes = (after, .ok ()) ∧ taken after = taken s ++ bytes ∧
      room? after = roomAfter (room? s) bytes.length := by
  induction hn : bytes.length using Nat.strongRecOn generalizing s bytes with
  | ind size ih =>
    subst hn
    cases bytes with
    | nil => exact ⟨s, by rw [write], by simp, by cases hr : room? s <;> simp [roomAfter]⟩
    | cons byte rest =>
      have hroom : room? s ≠ some 0 := fun h0 => by simpa using hfit 0 h0
      obtain ⟨next, n, hoffer, hpos, hle, -, htaken, hleft⟩ :=
        h.takes s (byte :: rest) (by simp) hroom
      obtain ⟨n, rfl⟩ := Nat.exists_eq_add_one_of_ne_zero (Nat.ne_of_gt hpos)
      obtain ⟨hsplit, htake⟩ := take_append_drop_cons hle
      rw [← hsplit, fits_append_iff, htake] at hfit
      have hless : (rest.drop n).length < (byte :: rest).length := by
        rw [List.length_drop, List.length_cons]
        omega
      obtain ⟨after, hwrite, htaken', hleft'⟩ := ih _ hless (s := next) (hleft ▸ hfit.2) rfl
      refine ⟨after, by rw [write, hoffer]; exact hwrite, ?_, ?_⟩
      · rw [htaken', htaken, List.append_assoc, hsplit]
      · rw [hleft', hleft, roomAfter_add]
        congr 1
        have := congrArg List.length hsplit
        rw [List.length_append, htake] at this
        exact this

/-- Of bytes that there is no room for, the beginning is written that there is room for. -/
theorem Bounded.write_of_not_fits (h : Bounded taken room?) {s : σ} {bytes : Bytes}
    (hfit : ¬ Fits (room? s) bytes.length) :
    ∃ after error, write s bytes = (after, .error error) ∧ Refused σ error ∧
      taken after = taken s ++ within (room? s) bytes := by
  induction hsize : bytes.length using Nat.strongRecOn generalizing s bytes with
  | ind size ih =>
    subst hsize
    cases bytes with
    | nil => exact absurd (fun room _ => Nat.zero_le room) hfit
    | cons byte rest =>
      by_cases hroom : room? s = some 0
      · obtain ⟨after, htaken, hoffer | ⟨error, hoffer⟩⟩ :=
          h.refuses s (byte :: rest) (by simp) hroom
        · exact ⟨after, .nothingWritten, by rw [write, hoffer], ⟨s, _, .inr ⟨by rw [hoffer], rfl⟩⟩,
            by simp [htaken, hroom, within]⟩
        · exact ⟨after, error, by rw [write, hoffer], ⟨s, _, .inl (by rw [hoffer])⟩,
            by simp [htaken, hroom, within]⟩
      · obtain ⟨next, n, hoffer, hpos, hle, hn, htaken, hleft⟩ :=
          h.takes s (byte :: rest) (by simp) hroom
        obtain ⟨n, rfl⟩ := Nat.exists_eq_add_one_of_ne_zero (Nat.ne_of_gt hpos)
        obtain ⟨hsplit, htake⟩ := take_append_drop_cons hle
        rw [← hsplit, fits_append_iff, htake, not_and] at hfit
        have hless : (rest.drop n).length < (byte :: rest).length := by
          rw [List.length_drop, List.length_cons]
          omega
        obtain ⟨after, error, hwrite, hrefused, htaken'⟩ :=
          ih _ hless (s := next) (hleft ▸ hfit hn) rfl
        refine ⟨after, error, by rw [write, hoffer]; exact hwrite, hrefused, ?_⟩
        have hwithin := within_append (htake ▸ hn) (rest.drop n)
        rw [hsplit, htake] at hwithin
        rw [htaken', htaken, hleft, List.append_assoc, hwithin]

theorem Bounded.writeAll_of_fits (h : Bounded taken room?) {s : σ} {pieces : List Bytes}
    (hfit : Fits (room? s) pieces.flatten.length) :
    ∃ after, writeAll s pieces = (after, .ok ()) ∧ taken after = taken s ++ pieces.flatten := by
  induction pieces generalizing s with
  | nil => exact ⟨s, rfl, by simp⟩
  | cons piece rest ih =>
    rw [List.flatten_cons, fits_append_iff] at hfit
    obtain ⟨next, hwrite, htaken, hleft⟩ := h.write_of_fits hfit.1
    obtain ⟨after, hrest, htaken'⟩ := ih (hleft ▸ hfit.2)
    refine ⟨after, by rw [writeAll, hwrite]; exact hrest, ?_⟩
    rw [htaken', htaken, List.append_assoc, List.flatten_cons]

theorem Bounded.writeAll_of_not_fits (h : Bounded taken room?) {s : σ} {pieces : List Bytes}
    (hfit : ¬ Fits (room? s) pieces.flatten.length) :
    ∃ after error, writeAll s pieces = (after, .error error) ∧ Refused σ error ∧
      taken after = taken s ++ within (room? s) pieces.flatten := by
  induction pieces generalizing s with
  | nil => exact absurd (fun room _ => Nat.zero_le room) hfit
  | cons piece rest ih =>
    rw [List.flatten_cons]
    by_cases hpiece : Fits (room? s) piece.length
    · rw [List.flatten_cons, fits_append_iff, not_and] at hfit
      obtain ⟨next, hwrite, htaken, hleft⟩ := h.write_of_fits hpiece
      obtain ⟨after, error, hrest, hrefused, htaken'⟩ := ih (hleft ▸ hfit hpiece)
      refine ⟨after, error, by rw [writeAll, hwrite]; exact hrest, hrefused, ?_⟩
      rw [htaken', htaken, hleft, List.append_assoc, within_append hpiece]
    · obtain ⟨after, error, hwrite, hrefused, htaken⟩ := h.write_of_not_fits hpiece
      refine ⟨after, error, by rw [writeAll, hwrite], hrefused, ?_⟩
      rw [htaken, within_append_of_not_fits hpiece]

end Receiver

theorem Sink.bounded : Receiver.Bounded Sink.accepted Sink.room? where
  takes := by
    intro s bytes hne hroom
    obtain ⟨accepted, _ | _ | room, fullError, flushError?⟩ := s
    · exact ⟨_, bytes.length, rfl, List.length_pos_iff.mpr hne, Nat.le_refl _,
        by simp [Receiver.Fits], by simp, rfl⟩
    · exact absurd rfl hroom
    · refine ⟨_, min (room + 1) bytes.length, rfl, ?_, Nat.min_le_right .., ?_, ?_, ?_⟩
      · have := List.length_pos_iff.mpr hne
        omega
      · intro left hleft
        cases hleft
        exact Nat.min_le_left ..
      · simp [List.take_eq_take_iff]
      · simp only [Receiver.roomAfter, Option.map_some, Option.some.injEq]
        omega
  refuses := by
    intro s bytes hne hroom
    obtain ⟨accepted, _ | _ | room, fullError, flushError?⟩ := s
    · cases hroom
    · exact ⟨_, rfl, .inr ⟨fullError, rfl⟩⟩
    · cases hroom
  flushes := fun s => rfl

theorem generateFileText_eq (text rootName : String) (settings : Settings) :
    generateFileText text rootName settings =
      match generateText text rootName settings with
      | .error failure => .error failure
      | .ok source => .ok (fileText source) := by
  unfold generateFileText
  cases generateText text rootName settings <;> rfl

theorem flatten_filePieces (source : String) :
    ((filePieces source).map Bytes.ofText).flatten = Bytes.ofText (fileText source) := by
  have hbreaks : "\n\n" = "\n" ++ "\n" := rfl
  simp only [filePieces, fileText, hbreaks, List.map_cons, List.map_nil, List.flatten_cons,
    List.flatten_nil, Bytes.ofText_append, List.append_assoc, List.append_nil]

namespace Sink

theorem write_of_room?_eq_none {s : Sink} (h : s.room? = none) (bytes : Bytes) :
    Receiver.write s bytes = ({ s with accepted := s.accepted ++ bytes }, .ok ()) := by
  cases bytes with
  | nil => simp [Receiver.write]
  | cons byte rest =>
    have hoffer : Receiver.offer s (byte :: rest) =
        ({ s with accepted := s.accepted ++ byte :: rest }, .ok (rest.length + 1)) := by
      show s.offer (byte :: rest) = _
      rw [offer, h]
      rfl
    rw [Receiver.write, hoffer]
    simp [Receiver.write]

theorem writeAll_of_room?_eq_none {s : Sink} (h : s.room? = none) (pieces : List Bytes) :
    Receiver.writeAll s pieces = ({ s with accepted := s.accepted ++ pieces.flatten }, .ok ()) := by
  induction pieces generalizing s with
  | nil => simp [Receiver.writeAll]
  | cons piece rest ih =>
    rw [Receiver.writeAll, write_of_room?_eq_none h]
    have hrest := ih (s := { s with accepted := s.accepted ++ piece }) h
    simpa using hrest

end Sink

/-- A sink with room for everything gets the whole file. -/
theorem generateTo_sink (text rootName : String) (settings : Settings) :
    generateTo text rootName settings ({} : Sink) =
      match generateFileText text rootName settings with
      | .error failure => ({}, .error failure)
      | .ok generated => ({ accepted := Bytes.ofText generated }, .ok ()) := by
  rw [generateFileText_eq, generateTo]
  cases generateText text rootName settings with
  | error failure => rfl
  | ok source =>
    simp only [Receiver.deliver, Sink.writeAll_of_room?_eq_none, flatten_filePieces,
      List.nil_append]
    rfl

open Receiver in
/-- What a delivery leaves with a receiver. Nothing reaches it when the text is no JSON value or
nothing is generated. Otherwise it holds as much of the file as it had room for, and the delivery
succeeds if that is all of it and the receiver flushes. -/
theorem generateTo_writes_beginning (text rootName : String) (settings : Settings) {σ : Type}
    [Receiver σ] (s : σ) :
    (∀ error, Json.read text = .error error →
      generateTo text rootName settings s = (s, .error (.fault (.json error)))) ∧
    ∀ sample, Json.read text = .ok sample →
      (∀ failure, generate sample rootName settings = .error failure →
        generateTo text rootName settings s = (s, .error failure)) ∧
      ∀ source, generate sample rootName settings = .ok source →
        ∀ (taken : σ → Bytes) (room? : σ → Option Nat), Bounded taken room? →
          let file := Bytes.ofText (fileText source)
          let written := (writeAll s ((filePieces source).map Bytes.ofText)).1
          let result := generateTo text rootName settings s
          taken written = taken s ++ within (room? s) file ∧ taken result.1 = taken written ∧
            (result.2 = .ok () ↔ Fits (room? s) file.length ∧ (flush written).2 = .ok ()) ∧
            (Fits (room? s) file.length → ∀ error, (flush written).2 = .error error →
              result.2 = .error (.fault (.io error))) ∧
            (¬ Fits (room? s) file.length →
              ∃ error, result.2 = .error (.fault (.io error)) ∧ Refused σ error) := by
  refine ⟨?_, ?_⟩
  · intro error hread
    rw [generateTo, generateText, hread]
  · intro sample hread
    refine ⟨?_, ?_⟩
    · intro failure hgenerate
      rw [generateTo, generateText, hread]
      simp only [hgenerate]
    · intro source hgenerate taken room? hbounded
      have htext : generateText text rootName settings = .ok source := by
        rw [generateText, hread]
        exact hgenerate
      have hfile := flatten_filePieces source
      simp only [generateTo, htext, deliver]
      generalize (filePieces source).map Bytes.ofText = pieces at hfile
      rw [← hfile]
      generalize hflat : pieces.flatten = file
      by_cases hfit : Fits (room? s) file.length
      · obtain ⟨written, hwrite, htaken⟩ := hbounded.writeAll_of_fits (hflat ▸ hfit)
        have hflush := hbounded.flushes written
        rcases hf : flush written with ⟨after, error | ⟨⟩⟩ <;> rw [hf] at hflush
        · simp [hwrite, htaken, hflat, hf, hfit, within_of_fits hfit, hflush]
        · simp [hwrite, htaken, hflat, hf, hfit, within_of_fits hfit, hflush]
      · obtain ⟨written, error, hwrite, hrefused, htaken⟩ :=
          hbounded.writeAll_of_not_fits (hflat ▸ hfit)
        simp [hwrite, htaken, hflat, hfit, hrefused]

/-- A sink that fills up after the header has the header and the beginning of the class. -/
theorem delivery_to_small_sink :
    ∃ sample source, Json.read "\x7b\x7d" = .ok sample ∧ generate sample "Root" {} = .ok source ∧
      Receiver.Bounded Sink.accepted Sink.room? ∧
      (generateTo "\x7b\x7d" "Root" {} ({ room? := some 66 } : Sink)).1.accepted =
        Bytes.ofText "// Generated by json-model-gen. Do not edit manually.\n\nclass Root " ∧
      (generateTo "\x7b\x7d" "Root" {} ({ room? := some 66 } : Sink)).2 ≠ .ok () := by
  have htext : generateText "\x7b\x7d" "Root" {} =
      .ok "class Root \x7b\n    init(json:JSONValue) \x7b\n    \x7d\n\x7d\n" := by decide +kernel
  unfold generateText at htext
  cases hread : Json.read "\x7b\x7d" with
  | error error => simp [hread] at htext
  | ok sample =>
    simp only [hread] at htext
    obtain ⟨htaken, hafter, hok, -, -⟩ :=
      ((generateTo_writes_beginning "\x7b\x7d" "Root" {} ({ room? := some 66 } : Sink)).2
        sample hread).2 _ htext _ _ Sink.bounded
    refine ⟨sample, _, rfl, htext, Sink.bounded, ?_, ?_⟩
    · rw [hafter, htaken]
      decide +kernel
    · rw [ne_eq, hok, not_and_or]
      refine .inl fun hfit => absurd (hfit 66 rfl) ?_
      decide +kernel

end SampleModels
