import MasterOfFiles.Storage.Metadata

/-!
COMMIT preserves contents as long as blocks_hash_index.config tells the truth. Nothing
corrects the index when a block it names is freed, so the truth lasts until that block is
written again.
-/
namespace StorageContenidos
open StorageEstado StorageArchivos StorageEscritura StorageCommit StoragePrimitivas StoragePasos
open StoragePedidos StorageDeduplicacion StorageAcuerdo StorageMovidas StorageEfectos
open StorageMetadata LinkDirectory FirstFit GuardedRuns

variable {Hash : Type} [DecidableEq Hash]

/-- A block the index names, if it exists, has the contents it is named for. -/
def IndiceCierto (sb : Superbloque) (md5 : Bytes → Hash) (s : Storage Hash) : Prop :=
  ∀ h b, s.indice.lookup h = some b → s.existe b = true → hashDeBloque sb md5 s b = h

/-- A COMMIT of an open File:Tag that succeeds leaves it committed with the same size and
    the same bytes in every logical block. -/
def CommitConserva (sb : Superbloque) (md5 : Bytes → Hash) (s : Storage Hash) : Prop :=
  ∀ f c, s.carpetas.lookup f = some c → c.estado = .workInProgress →
    (realizarCommit sb md5 s f).1 = true →
    ∃ c', (realizarCommit sb md5 s f).2.carpetas.lookup f = some c' ∧
      c'.estado = .commited ∧ c'.tamanio = c.tamanio ∧
      ∀ bloque, leerBloque sb (realizarCommit sb md5 s f).2 f bloque = leerBloque sb s f bloque

variable {sb : Superbloque} {md5 : Bytes → Hash} {s s' : Storage Hash} {f : FileTag}
  {c : Carpeta} {i b : Nat} {movs : List (Nat × Nat)}

theorem hash_representante (truth : IndiceCierto sb md5 s) {previos : List Nat} {h : Hash}
    (hr : representante sb md5 s previos h = some b) (he : s.existe b = true) :
    hashDeBloque sb md5 s b = h := by
  rcases Option.or_eq_some_iff.mp hr with indexed | ⟨_, earlier⟩
  · exact truth h b indexed he
  · have found := List.find?_some earlier
    simp only [Bool.and_eq_true, decide_eq_true_eq] at found
    exact found.2

theorem datos_nuevoBloque (injective : Function.Injective md5) (truth : IndiceCierto sb md5 s)
    (hb : c.blocks[i]? = some b) :
    (s.datos (nuevoBloque sb md5 s c i)).take sb.tamanioBloque =
      (s.datos b).take sb.tamanioBloque := by
  cases dec : decision sb md5 s c i with
  | reemplaza e =>
    obtain ⟨actual, ha, he, hr⟩ := decision_reemplaza dec
    have same : actual = b := Option.some.inj (ha.symm.trans hb)
    have entry : nuevoBloque sb md5 s c i = e := by simp [nuevoBloque, dec]
    rw [entry, ← same]
    exact injective (hash_representante truth hr he)
  | _ => simp [nuevoBloque, dec, hb]

def ReemplazoIgual (sb : Superbloque) (md5 : Bytes → Hash) (s : Storage Hash) (c : Carpeta)
    (i : Nat) : Prop :=
  ∀ b ∈ c.blocks[i]?, (s.datos (nuevoBloque sb md5 s c i)).take sb.tamanioBloque =
    (s.datos b).take sb.tamanioBloque

instance (sb : Superbloque) (md5 : Bytes → Hash) (s : Storage Hash) (c : Carpeta) (i : Nat) :
    Decidable (ReemplazoIgual sb md5 s c i) :=
  inferInstanceAs (Decidable (∀ b ∈ c.blocks[i]?, _ = _))

theorem leerBloque_commit {bloque : Int} (equal : ReemplazoIgual sb md5 s c bloque.toNat)
    (agree : Acorde sb f c) (hc : s.carpetas.lookup f = some c)
    (done : CommitHecho sb md5 s f c s') :
    leerBloque sb s' f bloque = leerBloque sb s f bloque := by
  obtain ⟨l, hl, links⟩ := done.carpeta
  have len : (if modificado sb md5 s c c.blocks.length then
      (List.range c.blocks.length).map (nuevoBloque sb md5 s c) else c.blocks).length =
        c.blocks.length := by
    split <;> simp
  simp only [leerBloque, hl, hc, len]
  split
  · rfl
  split
  · rfl
  rename_i inside
  have hi : bloque.toNat < c.blocks.length := Nat.lt_of_not_le inside
  have hb : c.blocks[bloque.toNat]? = some c.blocks[bloque.toNat] := List.getElem?_eq_getElem hi
  rw [links, ligado_eq agree hi, agree.1, hb]
  simp only [done.datos, equal _ hb]

theorem commitConserva_of_truth (injective : Function.Injective md5) (sano : Sano sb s)
    (all : MetadataAcorde sb s) (truth : IndiceCierto sb md5 s) : CommitConserva sb md5 s := by
  intro f c hc open_ ok
  have notClosed : c.estado ≠ .commited := by rw [open_]; exact EstadoArchivo.noConfusion
  cases hp : esProtegido f with
  | true => simp [realizarCommit, hp] at ok
  | false =>
    have done := (realizarCommit_hecho md5 sano.rango hp hc notClosed).2
    obtain ⟨l, hl, _⟩ := done.carpeta
    exact ⟨_, hl, rfl, rfl, fun _ => leerBloque_commit
      (fun _ hb => datos_nuevoBloque injective truth hb) (all f c hc) hc done⟩

theorem indiceCierto_formatearFs (sb : Superbloque) (md5 : Bytes → Hash) :
    IndiceCierto sb md5 (formatearFs sb : Storage Hash) := by
  intro h b indexed
  simp [formatearFs] at indexed

theorem indiceCierto_liberacion {quitados : Nat → Prop} (freed : Liberacion s quitados s')
    (truth : IndiceCierto sb md5 s) : IndiceCierto sb md5 s' := by
  intro h b indexed he
  rw [freed.indice] at indexed
  rw [hashDeBloque, freed.datos]
  exact truth h b indexed (freed.existe b he)

theorem indiceCierto_commit (done : CommitHecho sb md5 s f c s')
    (truth : IndiceCierto sb md5 s) : IndiceCierto sb md5 s' := by
  intro h b indexed he
  rw [done.indice] at indexed
  rw [done.existe] at he
  rw [hashDeBloque, done.datos]
  exact hash_representante truth indexed he

def SinIndexar (s : Storage Hash) (bloques : List Nat) : Prop :=
  ∀ b ∈ bloques, ∀ e ∈ s.indice.entries, e.2 ≠ b

instance (s : Storage Hash) (bloques : List Nat) : Decidable (SinIndexar s bloques) :=
  inferInstanceAs (Decidable (∀ b ∈ bloques, ∀ e ∈ s.indice.entries, e.2 ≠ b))

theorem indiceCierto_movida {blocks : List Nat} (moved : Movida sb s f c blocks movs s')
    (truth : IndiceCierto sb md5 s)
    (fresh : SinIndexar s ((freeSlots sb.cantidadBloques s.bitmap).take movs.length)) :
    IndiceCierto sb md5 s' := by
  intro h b indexed he
  rw [moved.indice] at indexed
  have other : b ∉ movs.map Prod.snd := by
    intro taken
    refine fresh b ?_ ⟨h, b⟩ (mem_entries_iff.mpr indexed) rfl
    rw [moved.tomados, List.take_left' (by simp)]
    exact taken
  rw [hashDeBloque, moved.datos b other]
  exact truth h b indexed (((moved.existe b).mp he).resolve_right other)

/-- PedidoEntero, and the blocks that a WRITE_BLOCK or FLUSH takes are not in the index. -/
def PedidoVeraz (sb : Superbloque) (md5 : Bytes → Hash) (s : Storage Hash) : Pedido → Prop
  | .escribir f bloque _ => esProtegido f = false → ∀ c ∈ s.carpetas.lookup f,
      c.estado ≠ .commited → EnRango sb c bloque →
      SinIndexar s ((freeSlots sb.cantidadBloques s.bitmap).take 1)
  | .flush f paginas cantidad => esProtegido f = false → ∀ c ∈ s.carpetas.lookup f,
      c.estado ≠ .commited → FlushEntero sb s c paginas cantidad ∧
        SinIndexar s ((freeSlots sb.cantidadBloques s.bitmap).take
          (paginasEnRango sb c paginas cantidad).length)
  | p => PedidoEntero sb md5 s p

instance (sb : Superbloque) (md5 : Bytes → Hash) (s : Storage Hash) :
    ∀ p, Decidable (PedidoVeraz sb md5 s p)
  | .escribir _ _ _ => inferInstanceAs (Decidable (_ → ∀ c ∈ _, _ → _ → _))
  | .flush _ _ _ => inferInstanceAs (Decidable (_ → ∀ c ∈ _, _ → _ ∧ _))
  | .commit f => inferInstanceAs (Decidable (PedidoEntero sb md5 s (.commit f)))
  | .crear _ | .truncar _ _ | .tag _ _ | .eliminar _ => inferInstanceAs (Decidable True)

theorem pedidoEntero_of_veraz (p : Pedido) (h : PedidoVeraz sb md5 s p) :
    PedidoEntero sb md5 s p := by
  cases p with
  | flush f paginas cantidad => exact fun hp c hc open_ => (h hp c hc open_).1
  | commit f => exact h
  | _ => trivial

theorem indiceCierto_trasPedido (p : Pedido) (sano : Sano sb s) (all : MetadataAcorde sb s)
    (truth : IndiceCierto sb md5 s) (guard : PedidoVeraz sb md5 s p) :
    IndiceCierto sb md5 (trasPedido sb md5 s p) := by
  have effect := trasPedido_efecto md5 p sano all
  generalize trasPedido sb md5 s p = s' at effect
  cases effect with
  | nada => exact truth
  | crear f new => exact truth
  | tag origen destino c there unprotected new => exact truth
  | truncar f tamanio c open_ l s' links list freed => exact indiceCierto_liberacion freed truth
  | escribir f bloque contenido c open_ range nuevo s' moved =>
    exact indiceCierto_movida moved truth (guard open_.libre c open_.esta open_.enCurso range)
  | flush f paginas cantidad c open_ =>
    obtain ⟨whole, fresh⟩ := guard open_.libre c open_.esta open_.enCurso
    obtain ⟨moves, which, moved⟩ := flushEntero_efecto sano open_.libre open_.esta
      open_.enCurso (all f c open_.esta) whole
    refine indiceCierto_movida moved truth ?_
    rcases which with rfl | all_
    · simp [SinIndexar]
    · rwa [← all_, List.length_map, ← List.length_map movimiento] at fresh
  | commit f c open_ s' done => exact indiceCierto_commit done truth
  | eliminar f c unprotected there s' folders freed => exact indiceCierto_liberacion freed truth

/-- With a hash that tells contents apart, every COMMIT of a run whose requests keep the
    index true preserves what it commits. -/
theorem indice_veraz_conserva (sb : Superbloque) {md5 : Bytes → Hash}
    (injective : Function.Injective md5) {ps : List Pedido}
    (safe : Along (trasPedido sb md5) (PedidoVeraz sb md5) (formatearFs sb) ps) :
    ∀ pre, pre <+: ps → CommitConserva sb md5 (trasPedidos sb md5 pre) := by
  intro pre hp
  have reached := invariant_on_prefixes
    (fun s => Sano sb s ∧ MetadataAcorde sb s ∧ IndiceCierto sb md5 s)
    (fun s p inv guard => ⟨sano_trasPedido p inv.1,
      metadataAcorde_trasPedido p inv.1 inv.2.1 (pedidoEntero_of_veraz p guard),
      indiceCierto_trasPedido p inv.1 inv.2.1 inv.2.2 guard⟩)
    ⟨sano_formatearFs sb, metadataAcorde_formatearFs sb, indiceCierto_formatearFs sb md5⟩
    safe pre hp
  exact commitConserva_of_truth injective reached.1 reached.2.1 reached.2.2

def dosIguales : List Pedido := nuevoCon a1 120 ++ [.commit a1] ++ nuevoCon b1 120 ++ [.commit b1]

theorem indice_veraz_conserva_corrida :
    Along (trasPedido discoDeSeis id) (PedidoVeraz discoDeSeis id) (formatearFs discoDeSeis)
        dosIguales ∧
      ∀ pre, pre <+: dosIguales → CommitConserva discoDeSeis id (trasPedidos discoDeSeis id pre) :=
  ⟨by decide, indice_veraz_conserva discoDeSeis Function.injective_id (by decide)⟩

/-- A:1 is committed and deleted, B:1 takes its block with other contents, and C:1 has the
    contents the index still names that block for. -/
def indiceViejo : List Pedido :=
  nuevoCon a1 120 ++ [.commit a1, .eliminar a1] ++ nuevoCon b1 121 ++ nuevoCon c1 120

theorem indice_viejo_cambia_bytes :
    Function.Injective (id : Bytes → Bytes) ∧
      ¬ CommitConserva discoDeSeis id (trasPedidos discoDeSeis id indiceViejo) := by
  refine ⟨Function.injective_id, fun h => ?_⟩
  have open_ : ((trasPedidos discoDeSeis id indiceViejo).carpetas.lookup c1).map
      (fun c => c.estado) = some .workInProgress := by decide
  obtain ⟨c, hc, state⟩ := Option.map_eq_some_iff.mp open_
  obtain ⟨_, _, _, _, read⟩ := h c1 c hc state (by decide)
  exact absurd (read 0) (by decide)

end StorageContenidos
