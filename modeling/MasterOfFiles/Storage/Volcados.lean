import MasterOfFiles.Storage.BloquesEnUso
import MasterOfFiles.Storage.Metadata
import MasterOfFiles.Worker.Coherencia

/-!
Storage as the Worker's memory sees it. A STORAGE_FLUSH that is accepted stores the pages of
its packet in new physical blocks; no other logical block reads differently after it.
-/
namespace StorageVolcados
open StorageEstado StorageArchivos StorageEscritura StoragePrimitivas StoragePasos
open StoragePedidos StorageDeduplicacion StorageBloquesEnUso StorageAcuerdo StorageMovidas
open StorageMetadata LinkDirectory FirstFit GuardedRuns
open WorkerMemoria WorkerPaginas WorkerCoherencia

variable {Hash : Type} {sb : Superbloque} {s s' : Storage Hash} {f g : FileTag} {c : Carpeta}
  {cfg : ConfigMemoria} {paginas : List Pagina} {cantidad : Int} {i b : Nat}

def servidorStorage (sb : Superbloque) : Servidor (Storage Hash) where
  leerBloque := leerBloque sb
  flush := flushArchivo sb

structure Consistente (sb : Superbloque) (s : Storage Hash) : Prop where
  sano : Sano sb s
  uso : EnUso s
  acorde : MetadataAcorde sb s

theorem consistente_coherente (h : Consistente sb s) : Coherente s :=
  ⟨fun f i b hd => ⟨h.uso f i b hd, h.sano.fisicos f i b hd⟩, fun f c hc => (h.acorde f c hc).1⟩

theorem flush_abierto (ok : (flushArchivo sb s f paginas cantidad).1 = true) :
    esProtegido f = false ∧ ∃ c, s.carpetas.lookup f = some c ∧ c.estado ≠ .commited := by
  unfold flushArchivo at ok
  split at ok
  · contradiction
  rename_i unprotected
  refine ⟨by simpa using unprotected, ?_⟩
  split at ok
  · contradiction
  rename_i c hc
  split at ok
  · contradiction
  rename_i open_
  refine ⟨c, hc, ?_⟩
  simpa [verificarSiCommited, hc] using open_

theorem flush_vacio_rechazado (rejected : (flushArchivo sb s f [] 0).1 = false) :
    (flushArchivo sb s f [] 0).2 = s := by
  revert rejected
  unfold flushArchivo
  split
  · exact fun _ => rfl
  split
  · exact fun _ => rfl
  split
  · exact fun _ => rfl
  · simp [escribirPendientes]

theorem leerBloque_listado (hc : s.carpetas.lookup f = some c) (listed : Listado c)
    (range : EnRango sb c i) (hb : c.blocks[i]? = some b) :
    leerBloque sb s f i = some ((s.datos b).take sb.tamanioBloque ++
      List.replicate (sb.tamanioBloque - ((s.datos b).take sb.tamanioBloque).length) 0) := by
  have link : c.logicos.lookup i = some b := (listed i).trans hb
  obtain ⟨inside, shorter⟩ := range
  rw [Int.toNat_natCast] at shorter
  simp only [leerBloque, hc, Int.toNat_natCast, if_neg inside, if_neg (Nat.not_le.mpr shorter),
    link]

theorem leerBloque_length {k : Int} {bloque : Bytes} (hb : leerBloque sb s f k = some bloque) :
    bloque.length = sb.tamanioBloque := by
  simp only [leerBloque] at hb
  split at hb
  · contradiction
  split at hb
  · contradiction
  split at hb
  · contradiction
  split at hb
  · contradiction
  · cases hb
    simp only [List.length_append, List.length_take, List.length_replicate]
    omega

theorem consistente_movida {movs : List (Nat × Nat)} (h : Consistente sb s)
    (hc : s.carpetas.lookup f = some c) (unprotected : esProtegido f = false)
    (moved : Movida sb s f c (ponerTodos c.blocks movs) movs s')
    (steps : Primitivas sb True f s s') : Consistente sb s' := by
  obtain ⟨l, links, _⟩ := moved.carpeta
  refine ⟨sano_primitivas steps h.sano (sin_proteger_ne_inicial unprotected),
    enUso_primitivas steps h.uso, ?_⟩
  exact metadataAcorde_of_target h.acorde links.otras fun c' hc' =>
    acorde_movida (h.acorde f c hc) moved hc'

theorem coherente_movida {movs : List (Nat × Nat)} (h : Coherente s)
    (hc : s.carpetas.lookup f = some c)
    (moved : Movida sb s f c (ponerTodos c.blocks movs) movs s') : Coherente s' := by
  obtain ⟨l, links, at_⟩ := moved.carpeta
  constructor
  · intro g i b hd
    rw [destino_conLinks links] at hd
    have kept : s.bitmap b = true ∧ s.existe b = true ∨ b ∈ movs.map Prod.snd := by
      split at hd
      · rw [at_] at hd
        rcases ponerTodos_mem (List.mem_of_getElem? hd) with old | new
        · obtain ⟨j, hj⟩ := List.mem_iff_getElem?.mp old
          exact .inl (h.usados f j b ((destino_listado (h.listas f c hc) hc j).trans hj))
        · exact .inr new
      · exact .inl (h.usados g i b hd)
    exact ⟨(moved.bits b).mpr (kept.imp_left And.left),
      (moved.existe b).mpr (kept.imp_left And.right)⟩
  · intro g c' hc'
    by_cases hg : g = f
    · subst hg
      rw [links.propia] at hc'
      cases hc'
      exact at_
    · rw [links.otras g hg] at hc'
      exact h.listas g c' hc'

theorem flush_guardado (h : Coherente s) (size : cfg.tamanioPagina = sb.tamanioBloque)
    (lote : Lote cfg paginas)
    (ok : (flushArchivo sb s f paginas paginas.length).1 = true) :
    let s' := (flushArchivo sb s f paginas paginas.length).2
    Coherente s' ∧ Guardado (servidorStorage sb) f paginas s s' := by
  obtain ⟨unprotected, c, hc, open_⟩ := flush_abierto ok
  have listed := h.listas f c hc
  obtain ⟨moved, _, range, _, done, after, bytes, _⟩ :=
    flushArchivo_efecto sb h.fisicos unprotected hc open_ listed paginas paginas.length
  have all : moved.map Prod.fst = paginas := by simpa using (done.mp ok).1
  rw [ok, if_pos rfl] at after
  have kept := bytes ok fun p hp => (lote.largo p hp).trans size
  generalize (flushArchivo sb s f paginas paginas.length).2 = s' at after kept ⊢
  have whole := coherente_movida h hc after
  obtain ⟨l, links, at_⟩ := after.carpeta
  have listed' := whole.listas f _ links.propia
  have inRange : ∀ p ∈ paginas, EnRango sb c p.1 := by
    intro p hp
    obtain ⟨m, hm, rfl⟩ := List.mem_map.mp (all ▸ hp)
    exact range m hm
  have positions : (moved.map movimiento).map Prod.fst = paginas.map fun p => p.1.toNat := by
    rw [← all, List.map_map, List.map_map]
    rfl
  have distinct : ((moved.map movimiento).map Prod.fst).Nodup := by
    rw [positions, List.Nodup, List.pairwise_map]
    refine lote.distintas.imp_of_mem fun {p q} hp hq ne same => ?_
    have low := (inRange p hp).1
    have low' := (inRange q hq).1
    omega
  have same_length := ponerTodos_length c.blocks (moved.map movimiento)
  -- the blocks taken were free, and linked blocks are not
  have untouched : ∀ g i b, s.destino g i = some b → s'.datos b = s.datos b := by
    intro g i b hd
    refine after.datos b fun taken => ?_
    have free := mem_freeSlots.mp (after.tomados ▸ List.mem_append_left _ taken)
    rw [(h.usados g i b hd).1] at free
    exact Bool.noConfusion free.2.2
  refine ⟨whole, ⟨?_, ?_⟩⟩
  · intro p hp
    obtain ⟨m, hm, rfl⟩ := List.mem_map.mp (all ▸ hp)
    have inside := inRange m.1 hp
    have number : ((m.1.1.toNat : Nat) : Int) = m.1.1 := by
      have low := inside.1
      omega
    have block := ponerTodos_get_mem c.blocks distinct (List.mem_map_of_mem hm)
      inside.2
    rw [← number] at inside ⊢
    refine (leerBloque_listado links.propia listed' ?_ block).trans ?_
    · exact ⟨inside.1, by rw [same_length]; exact inside.2⟩
    · rw [kept m hm, (lote.largo _ hp).trans size]
      simp
  · intro g k other
    by_cases hg : g = f
    · subst hg
      have apart := other.resolve_left fun ne => ne rfl
      simp only [servidorStorage, leerBloque, hc, links.propia, same_length]
      split
      · rfl
      rename_i outside
      split
      · rfl
      have still : k.toNat ∉ (moved.map movimiento).map Prod.fst := by
        rw [positions]
        intro hk
        obtain ⟨p, hp, same⟩ := List.mem_map.mp hk
        have low := (inRange p hp).1
        exact apart p hp (by omega)
      rw [at_, ponerTodos_get_otro _ still, ← listed]
      cases hl : c.logicos.lookup k.toNat with
      | none => rfl
      | some b => simp only [untouched g _ b (destino_some.mpr ⟨c, hc, hl⟩)]
    · exact leerBloque_congr (links.otras g hg) (untouched g) k

theorem flush_guarda (h : Consistente sb s) (size : cfg.tamanioPagina = sb.tamanioBloque)
    (lote : Lote cfg paginas)
    (ok : (flushArchivo sb s f paginas paginas.length).1 = true) :
    let s' := (flushArchivo sb s f paginas paginas.length).2
    Consistente sb s' ∧ Guardado (servidorStorage sb) f paginas s s' := by
  obtain ⟨unprotected, c, hc, open_⟩ := flush_abierto ok
  obtain ⟨moved, _, _, _, _, after, _⟩ :=
    flushArchivo_efecto sb h.sano.fisicos unprotected hc open_ (h.acorde f c hc).1 paginas
      paginas.length
  rw [ok, if_pos rfl] at after
  exact ⟨consistente_movida h hc unprotected after
      (flushArchivo_pasos ⟨h.sano, fun _ => h.uso⟩ paginas paginas.length),
    (flush_guardado (consistente_coherente h) size lote ok).2⟩

theorem consistente_formatearFs (sb : Superbloque) :
    Consistente sb (formatearFs sb : Storage Hash) :=
  ⟨sano_formatearFs sb, enUso_formatearFs sb, metadataAcorde_formatearFs sb⟩

def PedidoConsistente [DecidableEq Hash] (sb : Superbloque) (md5 : Bytes → Hash)
    (s : Storage Hash) (p : Pedido) : Prop :=
  PedidoSeguro sb md5 s p ∧ PedidoEntero sb md5 s p

instance [DecidableEq Hash] (sb : Superbloque) (md5 : Bytes → Hash) (s : Storage Hash)
    (p : Pedido) : Decidable (PedidoConsistente sb md5 s p) :=
  inferInstanceAs (Decidable (_ ∧ _))

theorem consistente_trasPedido [DecidableEq Hash] (md5 : Bytes → Hash) (p : Pedido)
    (h : Consistente sb s) (guard : PedidoConsistente sb md5 s p) :
    Consistente sb (trasPedido sb md5 s p) :=
  ⟨sano_trasPedido p h.sano, (enUso_trasPedido p h.sano h.uso).mpr guard.1,
    metadataAcorde_trasPedido p h.sano h.acorde guard.2⟩

theorem consistente_trasPedidos [DecidableEq Hash] (sb : Superbloque) {md5 : Bytes → Hash}
    {ps : List Pedido}
    (safe : Along (trasPedido sb md5) (PedidoConsistente sb md5) (formatearFs sb) ps) :
    Consistente sb (trasPedidos sb md5 ps) :=
  invariant_guarded_run (Consistente sb) (fun _ p h guard => consistente_trasPedido md5 p h guard)
    (consistente_formatearFs sb) safe

variable (Hash) in
theorem storage_fiel (size : cfg.tamanioPagina = sb.tamanioBloque) :
    Fiel (servidorStorage sb : Servidor (Storage Hash)) cfg (Consistente sb) := by
  constructor
  · intro s f k bloque _ hb
    exact (leerBloque_length hb).trans size.symm
  · intro s f ps h lote accepted
    rcases Bool.eq_false_or_eq_true (flushArchivo sb s f ps ps.length).1 with ok | rejected
    · exact flush_guarda h size lote ok
    · rcases accepted with ok | rfl
      · exact flush_guarda h size lote ok
      · have stay : ((servidorStorage sb).flush s f [] ([] : List Pagina).length).2 = s :=
          flush_vacio_rechazado rejected
        rw [stay]
        exact ⟨h, fun p hp => absurd hp List.not_mem_nil, fun _ _ _ => rfl⟩

end StorageVolcados
