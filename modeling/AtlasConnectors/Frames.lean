import Mathlib

/-! Frames of a stream: texts, each closed by a mark that none of them holds. -/
namespace AtlasConnectors
namespace Frames

variable {α : Type}

def frame (mark : α) (texts : List (List α)) : List α := texts.flatMap fun t => t ++ [mark]

@[simp] theorem frame_nil (mark : α) : frame mark [] = [] := rfl

@[simp] theorem frame_cons (mark : α) (t : List α) (texts : List (List α)) :
    frame mark (t :: texts) = t ++ mark :: frame mark texts := by
  simp [frame]

/-- What a reader has of a stream: the closed texts, and what follows the last mark. -/
structure Reading (α : Type) where
  texts : List (List α)
  rest : List α

variable [DecidableEq α]

def unframe (mark : α) : List α → Reading α
  | [] => ⟨[], []⟩
  | c :: cs =>
    if c = mark then ⟨[] :: (unframe mark cs).texts, (unframe mark cs).rest⟩
    else
      match (unframe mark cs).texts with
      | [] => ⟨[], c :: (unframe mark cs).rest⟩
      | t :: texts => ⟨(c :: t) :: texts, (unframe mark cs).rest⟩

@[simp] theorem unframe_nil (mark : α) : unframe mark [] = ⟨[], []⟩ := rfl

theorem unframe_closed {mark : α} {t : List α} (h : mark ∉ t) (cs : List α) :
    unframe mark (t ++ mark :: cs) = ⟨t :: (unframe mark cs).texts, (unframe mark cs).rest⟩ := by
  induction t with
  | nil => rw [List.nil_append, unframe, if_pos rfl]
  | cons c t ih =>
    obtain ⟨hne, ht⟩ := List.ne_and_not_mem_of_not_mem_cons h
    rw [List.cons_append, unframe, if_neg (Ne.symm hne), ih ht]

/-- Framed texts are read back, and reading goes on behind them. -/
theorem unframe_frame {mark : α} {texts : List (List α)} (h : ∀ t ∈ texts, mark ∉ t) (cs : List α) :
    unframe mark (frame mark texts ++ cs) = ⟨texts ++ (unframe mark cs).texts, (unframe mark cs).rest⟩ := by
  induction texts with
  | nil => rfl
  | cons t texts ih =>
    obtain ⟨ht, htexts⟩ := List.forall_mem_cons.mp h
    rw [frame_cons, List.append_assoc, List.cons_append, unframe_closed ht, ih htexts]
    rfl

/-- Reading loses nothing: the texts framed again and the rest are the stream. -/
theorem frame_unframe (mark : α) (cs : List α) :
    frame mark (unframe mark cs).texts ++ (unframe mark cs).rest = cs := by
  induction cs with
  | nil => rfl
  | cons c cs ih =>
    by_cases hc : c = mark
    · rw [unframe, if_pos hc, frame_cons, List.nil_append, List.cons_append, ih, hc]
    · rw [unframe, if_neg hc]
      cases htexts : (unframe mark cs).texts with
      | nil =>
        rw [htexts, frame_nil, List.nil_append] at ih
        simp [ih]
      | cons t texts =>
        rw [htexts, frame_cons] at ih
        simpa using ih

theorem not_mem_unframe (mark : α) (cs : List α) :
    (∀ t ∈ (unframe mark cs).texts, mark ∉ t) ∧ mark ∉ (unframe mark cs).rest := by
  induction cs with
  | nil => simp
  | cons c cs ih =>
    by_cases hc : c = mark
    · rw [unframe, if_pos hc]
      exact ⟨List.forall_mem_cons.mpr ⟨List.not_mem_nil, ih.1⟩, ih.2⟩
    · rw [unframe, if_neg hc]
      cases htexts : (unframe mark cs).texts with
      | nil => exact ⟨by simp, List.not_mem_cons_of_ne_of_not_mem (Ne.symm hc) ih.2⟩
      | cons t texts =>
        obtain ⟨ht, hrest⟩ := List.forall_mem_cons.mp (htexts ▸ ih.1)
        exact ⟨List.forall_mem_cons.mpr ⟨List.not_mem_cons_of_ne_of_not_mem (Ne.symm hc) ht, hrest⟩, ih.2⟩

/-- A reader that was interrupted goes on from what it had. -/
theorem unframe_append (mark : α) (cs ds : List α) : unframe mark (cs ++ ds) =
    ⟨(unframe mark cs).texts ++ (unframe mark ((unframe mark cs).rest ++ ds)).texts,
      (unframe mark ((unframe mark cs).rest ++ ds)).rest⟩ := by
  conv_lhs => rw [← frame_unframe mark cs, List.append_assoc]
  exact unframe_frame (not_mem_unframe mark cs).1 _

theorem texts_prefix {mark : α} {cs ds : List α} (h : cs <+: ds) :
    (unframe mark cs).texts <+: (unframe mark ds).texts := by
  obtain ⟨rest, rfl⟩ := h
  rw [unframe_append]
  exact List.prefix_append _ _

theorem length_texts (mark : α) (cs : List α) : (unframe mark cs).texts.length = cs.count mark := by
  induction cs with
  | nil => rfl
  | cons c cs ih =>
    by_cases hc : c = mark
    · rw [unframe, if_pos hc, List.length_cons, ih, hc, List.count_cons_self]
    · rw [unframe, if_neg hc, List.count_cons_of_ne hc, ← ih]
      cases (unframe mark cs).texts <;> rfl

def readChunk (mark : α) (reading : Reading α) (chunk : List α) : Reading α where
  texts := reading.texts ++ (unframe mark (reading.rest ++ chunk)).texts
  rest := (unframe mark (reading.rest ++ chunk)).rest

def readChunks (mark : α) (chunks : List (List α)) : Reading α := chunks.foldl (readChunk mark) ⟨[], []⟩

theorem readChunk_unframe (mark : α) (cs chunk : List α) :
    readChunk mark (unframe mark cs) chunk = unframe mark (cs ++ chunk) := (unframe_append mark cs chunk).symm

/-- How a stream is cut does not matter. -/
theorem readChunks_eq (mark : α) (chunks : List (List α)) :
    readChunks mark chunks = unframe mark chunks.flatten := by
  have hfold : ∀ cs, chunks.foldl (readChunk mark) (unframe mark cs) = unframe mark (cs ++ chunks.flatten) := by
    induction chunks with
    | nil => simp
    | cons chunk chunks ih =>
      intro cs
      rw [List.foldl_cons, readChunk_unframe, ih, List.flatten_cons, List.append_assoc]
  exact hfold []

end Frames
end AtlasConnectors
