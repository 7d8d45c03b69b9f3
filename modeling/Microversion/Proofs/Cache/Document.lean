import Microversion.Cache.Document
import Microversion.Proofs.Json.Values

/-! # Documents survive their file

What a cache file holds is in the order of its keys, with times of 64 bits. Such a
document is what is read back from the bytes that are written for it, and a new
entry leaves it one.
-/

namespace Microversion.Cache

open Json

/-- Entries are in the order of their keys, and each of their times fits in 64 bits. -/
structure Document.IsProper (doc : Document) : Prop where
  sorted : Table.Sorted doc
  bounded : ∀ m ∈ doc, m.2.storedAt < UInt64.size

namespace Document

theorem isProper_nil : IsProper [] := ⟨List.Pairwise.nil, by simp⟩

theorem IsProper.insert {doc : Document} (h : doc.IsProper) (key : String) {e : Entry}
    (he : e.storedAt < UInt64.size) : IsProper (Table.insert key e doc) where
  sorted := Table.sorted_insert key e h.sorted
  bounded := by
    intro m hm
    rcases Table.mem_insert hm with rfl | hm
    · exact he
    · exact h.bounded m hm

end Document

section Decoding

theorem storedAt_of_ofTree? {t : Tree} {e : Entry} (h : Entry.ofTree? t = some e) :
    e.storedAt < UInt64.size := by
  unfold Entry.ofTree? at h
  split at h
  · next version storedAt _ =>
    split at h
    · next v n _ hn =>
      cases h
      unfold Tree.natBelow? at hn
      split at hn
      · split at hn
        · split at hn
          · cases hn
            assumption
          · cases hn
        · cases hn
      · cases hn
    · cases h
  · cases h

theorem isProper_of_ofMembers? {ms : List (List Piece × Tree)} {acc doc : Document}
    (hacc : acc.IsProper) (h : Document.ofMembers? ms acc = some doc) : doc.IsProper := by
  induction ms generalizing acc with
  | nil =>
    cases h
    exact hacc
  | cons m ms ih =>
    obtain ⟨key, t⟩ := m
    rw [Document.ofMembers?] at h
    split at h
    · next k e _ he => exact ih (hacc.insert k (storedAt_of_ofTree? he)) h
    · cases h

/-- Whatever bytes a file holds, what is read of them is a proper document. -/
theorem isProper_of_decode? {bs : Bytes} {doc : Document} (h : Document.decode? bs = some doc) :
    doc.IsProper := by
  unfold Document.decode? at h
  split at h
  · exact isProper_of_ofMembers? Document.isProper_nil h
  · cases h

end Decoding

section Encoding

/-- The tree as which an entry is read. -/
def Entry.tree (e : Entry) : Tree :=
  .object [(piecesOf "version", .string (piecesOf e.version)),
    (piecesOf "stored_at", .number (decimalLiteral e.storedAt))]

theorem reads_entry (e : Entry) : e.toJson.Reads e.tree :=
  reads_object [⟨"version", _, _, reads_string e.version⟩,
    ⟨"stored_at", _, _, reads_ofNat e.storedAt⟩]

theorem ofTree?_tree {e : Entry} (h : e.storedAt < UInt64.size) :
    Entry.ofTree? e.tree = some e := by
  have hversion : Tree.text? (.string (piecesOf e.version)) = some e.version :=
    text?_piecesOf e.version
  have hstored : Tree.natBelow? UInt64.size (.number (decimalLiteral e.storedAt)) =
      some e.storedAt := by
    simp [Tree.natBelow?, int?_decimalLiteral h, h]
  have hfields : e.tree.record? .skipped ["version", "stored_at"] =
      some [some (.string (piecesOf e.version)), some (.number (decimalLiteral e.storedAt))] := by
    simp [Entry.tree, Tree.record?, Tree.select?, Tree.fill?]
  rw [Entry.ofTree?, hfields]
  simp only [hversion, hstored]

/-- A member of a document with the tree as which it is read. -/
def fieldOf (m : String × Entry) : Field := ⟨m.1, m.2.toJson, m.2.tree, reads_entry m.2⟩

theorem ofMembers?_read {doc acc : Document} (hsorted : Table.Sorted (acc ++ doc))
    (hbounded : ∀ m ∈ doc, m.2.storedAt < UInt64.size) :
    Document.ofMembers? (doc.map fun m => (fieldOf m).read) acc = some (acc ++ doc) := by
  induction doc generalizing acc with
  | nil => simp [Document.ofMembers?]
  | cons m doc ih =>
    obtain ⟨key, e⟩ := m
    have he : e.storedAt < UInt64.size := hbounded _ List.mem_cons_self
    have hlast : ∀ a ∈ acc, a.1 < key := fun a ha =>
      (List.pairwise_append.mp hsorted).2.2 a ha _ List.mem_cons_self
    have hread : (fieldOf (key, e)).read = (piecesOf key, e.tree) := rfl
    rw [List.map_cons, hread, Document.ofMembers?]
    simp only [text?_piecesOf, ofTree?_tree he, Table.insert_of_last e hlast]
    rw [ih (by simpa using hsorted) fun m hm => hbounded m (List.mem_cons_of_mem _ hm),
      List.append_assoc, List.singleton_append]

/-- A proper document is what is read back from its file. -/
theorem Document.decode?_encode {doc : Document} (h : doc.IsProper) :
    Document.decode? doc.encode = some doc := by
  have htree : Tree.parse? doc.encode = some (.object (doc.map fun m => (fieldOf m).read)) := by
    have hreads := reads_object (doc.map fieldOf)
    simp only [List.map_map] at hreads
    exact parse?_pretty hreads
  have hmembers := @ofMembers?_read doc [] (by simpa using h.sorted) h.bounded
  rw [Document.decode?, htree]
  exact hmembers

end Encoding

end Microversion.Cache
