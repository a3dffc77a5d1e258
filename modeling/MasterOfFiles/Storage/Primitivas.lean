import MasterOfFiles.Storage.Commit
import Mathlib.Logic.Relation

/-!
The block store the operations are built on. A primitive step on behalf of one File:Tag
replaces or removes its folder, sets or clears a bit, writes a physical block or removes
one. The strict form adds what sharing needs: links go to blocks marked used, a bit is
cleared only when no link is left, contents change only where no other File:Tag looks.
-/
namespace StoragePrimitivas
open StorageEstado StorageArchivos LinkDirectory Relation

variable {Hash : Type}

def carpetaBase : Carpeta := ⟨0, .commited, [0], AList.singleton 0 0⟩

structure Sano (sb : Superbloque) (s : Storage Hash) : Prop where
  fisicos : ∀ f i b, s.destino f i = some b → s.existe b = true
  rango : ∀ b, s.bitmap b = true → b < sb.cantidadBloques
  base : s.carpetas.lookup initialFileBase = some carpetaBase

def EnUso (s : Storage Hash) : Prop := ∀ f i b, s.destino f i = some b → s.bitmap b = true

inductive Primitiva (sb : Superbloque) (estricta : Prop) (f : FileTag) :
    Storage Hash → Storage Hash → Prop where
  | carpeta (s : Storage Hash) (c : Carpeta)
      (links : ∀ i b, c.logicos.lookup i = some b →
        s.existe b = true ∧ (estricta → s.bitmap b = true)) :
      Primitiva sb estricta f s (s.ponerCarpeta f c)
  | borrar (s : Storage Hash) : Primitiva sb estricta f s (borrarCarpeta s f)
  | ocupar (s : Storage Hash) (b : Nat) (rango : b < sb.cantidadBloques) :
      Primitiva sb estricta f s (s.ocupar b)
  | liberar (s : Storage Hash) (b : Nat) (sinLinks : estricta → ¬ s.Enlazado b) :
      Primitiva sb estricta f s (s.liberar b)
  | contenido (s : Storage Hash) (b : Nat) (bytes : Bytes)
      (propio : estricta → ∀ g i, s.destino g i = some b → g = f) :
      Primitiva sb estricta f s { s with
        existe := Function.update s.existe b true, datos := Function.update s.datos b bytes }
  | borrarFisico (s : Storage Hash) (b : Nat) (sinLinks : ¬ s.Enlazado b) :
      Primitiva sb estricta f s (s.borrarFisico b)
  | persistir (s : Storage Hash) : Primitiva sb estricta f s s.persistirBitmap
  | indexar (s : Storage Hash) (indice : Dir Hash Nat) :
      Primitiva sb estricta f s { s with indice := indice }

abbrev Primitivas (sb : Superbloque) (estricta : Prop) (f : FileTag) :
    Storage Hash → Storage Hash → Prop :=
  ReflTransGen (Primitiva sb estricta f)

variable {sb : Superbloque} {estricta : Prop} {f g : FileTag} {s s' : Storage Hash}

theorem lookup_borrarCarpeta (s : Storage Hash) (f g : FileTag) :
    (borrarCarpeta s f).carpetas.lookup g = if g = f then none else s.carpetas.lookup g :=
  lookup_erase_ite s.carpetas f g

theorem destino_borrarCarpeta (s : Storage Hash) (f g : FileTag) (i : Nat) :
    (borrarCarpeta s f).destino g i = if g = f then none else s.destino g i := by
  simp only [Storage.destino, lookup_borrarCarpeta]
  split <;> rfl

theorem primitiva_lookup_otro (h : Primitiva sb estricta f s s') (other : g ≠ f) :
    s'.carpetas.lookup g = s.carpetas.lookup g := by
  cases h with
  | carpeta c links => simp [lookup_ponerCarpeta, other]
  | borrar => simp [lookup_borrarCarpeta, other]
  | _ => rfl

theorem primitivas_lookup_otro (h : Primitivas sb estricta f s s') (other : g ≠ f) :
    s'.carpetas.lookup g = s.carpetas.lookup g := by
  induction h with
  | refl => rfl
  | tail _ last ih => exact (primitiva_lookup_otro last other).trans ih

theorem primitivas_destino_otro (h : Primitivas sb estricta f s s') (other : g ≠ f)
    (i : Nat) : s'.destino g i = s.destino g i := by
  simp only [Storage.destino, primitivas_lookup_otro h other]

theorem sano_primitiva (h : Primitiva sb estricta f s s') (sano : Sano sb s)
    (noBase : f ≠ initialFileBase) : Sano sb s' := by
  have base : s'.carpetas.lookup initialFileBase = some carpetaBase :=
    (primitiva_lookup_otro h (Ne.symm noBase)).trans sano.base
  cases h with
  | carpeta c links =>
    refine ⟨?_, sano.rango, base⟩
    intro k i b hd
    rw [destino_ponerCarpeta] at hd
    split at hd
    · exact (links i b hd).1
    · exact sano.fisicos k i b hd
  | borrar =>
    refine ⟨?_, sano.rango, base⟩
    intro k i b hd
    rw [destino_borrarCarpeta] at hd
    split at hd
    · contradiction
    · exact sano.fisicos k i b hd
  | ocupar b rango =>
    refine ⟨sano.fisicos, ?_, base⟩
    intro x hx
    simp only [Storage.ocupar, Function.update_apply] at hx
    split at hx
    · rename_i e; exact e ▸ rango
    · exact sano.rango x hx
  | liberar b sinLinks =>
    refine ⟨sano.fisicos, ?_, base⟩
    intro x hx
    simp only [Storage.liberar, Function.update_apply] at hx
    split at hx
    · contradiction
    · exact sano.rango x hx
  | contenido b bytes propio =>
    refine ⟨?_, sano.rango, base⟩
    intro k i x hd
    simp only [Function.update_apply]
    split
    · rfl
    · exact sano.fisicos k i x hd
  | borrarFisico b sinLinks =>
    refine ⟨?_, sano.rango, base⟩
    intro k i x hd
    have ne : x ≠ b := by
      rintro rfl
      exact sinLinks ⟨k, i, hd⟩
    simp only [Storage.borrarFisico, Function.update_of_ne ne]
    exact sano.fisicos k i x hd
  | persistir => exact ⟨sano.fisicos, sano.rango, base⟩
  | indexar indice => exact ⟨sano.fisicos, sano.rango, base⟩

theorem sano_primitivas (h : Primitivas sb estricta f s s') (sano : Sano sb s)
    (noBase : f ≠ initialFileBase) : Sano sb s' := by
  induction h with
  | refl => exact sano
  | tail _ last ih => exact sano_primitiva last ih noBase

theorem enUso_primitiva (h : Primitiva sb True f s s') (uso : EnUso s) : EnUso s' := by
  intro k i x hd
  cases h with
  | carpeta c links =>
    rw [destino_ponerCarpeta] at hd
    split at hd
    · exact (links i x hd).2 trivial
    · exact uso k i x hd
  | borrar =>
    rw [destino_borrarCarpeta] at hd
    split at hd
    · contradiction
    · exact uso k i x hd
  | ocupar b rango =>
    simp only [Storage.ocupar, Function.update_apply]
    split
    · rfl
    · exact uso k i x hd
  | liberar b sinLinks =>
    have ne : x ≠ b := by
      rintro rfl
      exact sinLinks trivial ⟨k, i, hd⟩
    simp only [Storage.liberar, Function.update_of_ne ne]
    exact uso k i x hd
  | _ => exact uso k i x hd

theorem enUso_primitivas (h : Primitivas sb True f s s') (uso : EnUso s) : EnUso s' := by
  induction h with
  | refl => exact uso
  | tail _ last ih => exact enUso_primitiva last ih

theorem primitivas_datos_otro (h : Primitivas sb True f s s') (other : g ≠ f) {i b : Nat}
    (hd : s.destino g i = some b) : s'.datos b = s.datos b := by
  induction h with
  | refl => rfl
  | @tail t t' first last ih =>
    have ht : t.destino g i = some b := by rw [primitivas_destino_otro first other, hd]
    rw [← ih]
    cases last with
    | contenido x bytes propio =>
      have ne : b ≠ x := by
        rintro rfl
        exact other (propio trivial g i ht)
      simp [Function.update_of_ne ne]
    | _ => rfl

theorem leerBloque_congr (hc : s'.carpetas.lookup g = s.carpetas.lookup g)
    (hd : ∀ i b, s.destino g i = some b → s'.datos b = s.datos b) (bloque : Int) :
    leerBloque sb s' g bloque = leerBloque sb s g bloque := by
  unfold leerBloque
  rw [hc]
  cases hf : s.carpetas.lookup g with
  | none => rfl
  | some c =>
    dsimp only
    split
    · rfl
    · split
      · rfl
      · cases hl : c.logicos.lookup bloque.toNat with
        | none => rfl
        | some b =>
          have := hd bloque.toNat b (destino_some.mpr ⟨c, hf, hl⟩)
          simp only [this]

theorem primitivas_leerBloque_otro (h : Primitivas sb True f s s') (other : g ≠ f)
    (bloque : Int) : leerBloque sb s' g bloque = leerBloque sb s g bloque :=
  leerBloque_congr (primitivas_lookup_otro h other)
    (fun _ _ hd => primitivas_datos_otro h other hd) bloque

/-! Each file-system call of the operations is a primitive step. -/

structure Apta (sb : Superbloque) (estricta : Prop) (s : Storage Hash) : Prop where
  sano : Sano sb s
  uso : estricta → EnUso s

theorem apta_debil (sano : Sano sb s) : Apta sb False s := ⟨sano, False.elim⟩

theorem apta_links (apta : Apta sb estricta s) {c : Carpeta} (hc : s.carpetas.lookup f = some c)
    {i b : Nat} (hl : c.logicos.lookup i = some b) :
    s.existe b = true ∧ (estricta → s.bitmap b = true) := by
  have hd : s.destino f i = some b := destino_some.mpr ⟨c, hc, hl⟩
  exact ⟨apta.sano.fisicos f i b hd, fun he => apta.uso he f i b hd⟩

theorem apta_primitivas (h : Primitivas sb estricta f s s') (apta : Apta sb estricta s)
    (noBase : f ≠ initialFileBase) : Apta sb estricta s' := by
  refine ⟨sano_primitivas h apta.sano noBase, ?_⟩
  intro he
  have same : estricta = True := eq_true he
  subst same
  exact enUso_primitivas h (apta.uso he)

theorem apta_cero (apta : Apta sb estricta s) :
    s.existe 0 = true ∧ (estricta → s.bitmap 0 = true) :=
  apta_links apta apta.sano.base (i := 0) (by decide)

theorem primitiva_metadata (apta : Apta sb estricta s) {c c' : Carpeta}
    (hc : s.carpetas.lookup f = some c) (same : c'.logicos = c.logicos) :
    Primitiva sb estricta f s (s.ponerCarpeta f c') := by
  refine .carpeta s c' ?_
  intro i b hl
  rw [same] at hl
  exact apta_links apta hc hl

theorem primitiva_enlazar (apta : Apta sb estricta s) {b i : Nat}
    (bit : estricta → s.bitmap b = true) (h : s.enlazar b f i = some s') :
    Primitiva sb estricta f s s' := by
  obtain ⟨c, hc, he, _, rfl⟩ := enlazar_some h
  refine .carpeta s _ ?_
  intro j x hl
  rw [lookup_insert_ite] at hl
  split at hl
  · cases hl; exact ⟨he, bit⟩
  · exact apta_links apta hc hl

theorem primitiva_desenlazar (apta : Apta sb estricta s) {i : Nat}
    (h : s.desenlazar f i = some s') : Primitiva sb estricta f s s' := by
  obtain ⟨c, x, hc, _, rfl⟩ := desenlazar_some h
  refine .carpeta s _ ?_
  intro j y hl
  rw [lookup_erase_ite] at hl
  split at hl
  · contradiction
  · exact apta_links apta hc hl

theorem primitivas_desenlazar_getD (apta : Apta sb estricta s) (i : Nat) :
    Primitivas sb estricta f s ((s.desenlazar f i).getD s) := by
  cases h : s.desenlazar f i with
  | none => exact .refl
  | some s' => exact .single (primitiva_desenlazar apta h)

theorem primitiva_escribirFisico {b : Nat} {bytes : Bytes}
    (propio : estricta → ∀ g i, s.destino g i = some b → g = f)
    (h : s.escribirFisico b bytes = some s') : Primitiva sb estricta f s s' := by
  unfold Storage.escribirFisico at h
  split at h
  · rename_i he
    cases h
    have same : Function.update s.existe b true = s.existe := by
      rw [← he]; exact Function.update_eq_self b s.existe
    have step : Primitiva sb estricta f s { s with
        existe := Function.update s.existe b true
        datos := Function.update s.datos b (bytes ++ (s.datos b).drop bytes.length) } :=
      .contenido s b _ propio
    rwa [same] at step
  · contradiction

end StoragePrimitivas
