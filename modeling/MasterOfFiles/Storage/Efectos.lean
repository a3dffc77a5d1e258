import MasterOfFiles.Storage.Movidas

/-!
What a request can do to a storage whose metadata and links agree, said once: the results
about runs go through these cases.
-/
namespace StorageEfectos
open StorageEstado StorageArchivos StorageEscritura StorageCommit StoragePrimitivas
open StoragePedidos StorageDeduplicacion StorageAcuerdo StorageMovidas LinkDirectory FirstFit

variable {Hash : Type}

/-- f can be changed: not protected, there, and not committed. -/
structure Abierta (s : Storage Hash) (f : FileTag) (c : Carpeta) : Prop where
  libre : esProtegido f = false
  esta : s.carpetas.lookup f = some c
  enCurso : c.estado ≠ .commited

theorem abierta_or (s : Storage Hash) (f : FileTag) :
    (∃ c, Abierta s f c) ∨ esProtegido f = true ∨ s.carpetas.lookup f = none ∨
      ∃ c, s.carpetas.lookup f = some c ∧ c.estado = .commited := by
  cases hp : esProtegido f with
  | true => exact .inr (.inl rfl)
  | false =>
    cases hc : s.carpetas.lookup f with
    | none => exact .inr (.inr (.inl rfl))
    | some c =>
      by_cases closed : c.estado = .commited
      · exact .inr (.inr (.inr ⟨c, rfl, closed⟩))
      · exact .inl ⟨c, hp, hc, closed⟩

variable [DecidableEq Hash]

inductive Efecto (sb : Superbloque) (md5 : Bytes → Hash) (s : Storage Hash) :
    Pedido → Storage Hash → Prop where
  | nada (p : Pedido) : Efecto sb md5 s p s
  | crear (f : FileTag) (nueva : s.carpetas.lookup f = none) :
      Efecto sb md5 s (.crear f) (s.ponerCarpeta f ⟨0, .workInProgress, [], ∅⟩)
  | tag (origen destino : FileTag) (c : Carpeta) (esta : s.carpetas.lookup origen = some c)
      (libre : esProtegido origen = false) (nueva : s.carpetas.lookup destino = none) :
      Efecto sb md5 s (.tag origen destino)
        (s.ponerCarpeta destino { c with estado := .workInProgress })
  | truncar (f : FileTag) (tamanio : Nat) (c : Carpeta) (abierta : Abierta s f c)
      (l : Dir Nat Nat) (s' : Storage Hash)
      (links : ConLinks s f
        ⟨tamanio, c.estado, bloquesFinales c.blocks (sb.bloquesLogicos tamanio), l⟩ l s')
      (lista : ∀ i, l.lookup i = (bloquesFinales c.blocks (sb.bloquesLogicos tamanio))[i]?)
      (libera : Liberacion s
        (fun b => ∃ i, sb.bloquesLogicos tamanio ≤ i ∧ c.blocks[i]? = some b) s') :
      Efecto sb md5 s (.truncar f tamanio) s'
  | escribir (f : FileTag) (bloque : Int) (contenido : Bytes) (c : Carpeta)
      (abierta : Abierta s f c) (rango : EnRango sb c bloque) (nuevo : Nat)
      (s' : Storage Hash)
      (movida : Movida sb s f c (ponerTodos c.blocks [(bloque.toNat, nuevo)])
        [(bloque.toNat, nuevo)] s') :
      Efecto sb md5 s (.escribir f bloque contenido) s'
  | flush (f : FileTag) (paginas : List Pagina) (cantidad : Int) (c : Carpeta)
      (abierta : Abierta s f c) :
      Efecto sb md5 s (.flush f paginas cantidad) (flushArchivo sb s f paginas cantidad).2
  | commit (f : FileTag) (c : Carpeta) (abierta : Abierta s f c) (s' : Storage Hash)
      (hecho : CommitHecho sb md5 s f c s') : Efecto sb md5 s (.commit f) s'
  | eliminar (f : FileTag) (c : Carpeta) (libre : esProtegido f = false)
      (esta : s.carpetas.lookup f = some c) (s' : Storage Hash)
      (carpetas : ∀ g, s'.carpetas.lookup g = if g = f then none else s.carpetas.lookup g)
      (libera : Liberacion s (fun b => b ∈ c.blocks) s') : Efecto sb md5 s (.eliminar f) s'

variable {sb : Superbloque} {md5 : Bytes → Hash} {s : Storage Hash} {f : FileTag}

theorem trasPedido_efecto (md5 : Bytes → Hash) (p : Pedido) (sano : Sano sb s)
    (all : MetadataAcorde sb s) : Efecto sb md5 s p (trasPedido sb md5 s p) := by
  have idle : trasPedido sb md5 s p = s → Efecto sb md5 s p (trasPedido sb md5 s p) := by
    intro same
    rw [same]
    exact .nada p
  cases p with
  | crear f =>
    rcases crearFile_cases s f with ⟨_, _, same⟩ | ⟨hf, made⟩
    · exact idle (congrArg Prod.snd same)
    · rw [trasPedido, atender, made]
      exact .crear f hf
  | truncar f tamanio =>
    rcases abierta_or s f with ⟨c, open_⟩ | hp | none_ | ⟨c, hc, closed⟩
    · obtain ⟨l, _, links, list, freed⟩ := truncarFile_efecto sano.fisicos sano.rango
        (apta_cero (apta_debil sano)).1 open_.libre open_.esta open_.enCurso
        (all f c open_.esta) tamanio
      exact .truncar f tamanio c open_ l _ links list freed.toLiberacion
    · exact idle (by simp [trasPedido, atender, truncarFile, hp])
    · exact idle (by simp [trasPedido, atender, truncarFile, none_])
    · exact idle (trasPedido_commited hc closed (by simp))
  | tag origen destino =>
    rcases tagFile_cases s origen destino with same | ⟨c, hp, ho, hd, made⟩
    · exact idle (congrArg Prod.snd same)
    · rw [trasPedido, atender, made]
      exact .tag origen destino c ho hp hd
  | escribir f bloque contenido =>
    rcases abierta_or s f with ⟨c, open_⟩ | hp | none_ | ⟨c, hc, closed⟩
    · rcases escribirBloque_efecto sb sano.fisicos open_.libre open_.esta
        open_.enCurso (all f c open_.esta).1 bloque contenido with same | ⟨range, nuevo, _, _, moved⟩
      · exact idle (by simp only [trasPedido, atender, same])
      · exact .escribir f bloque contenido c open_ range nuevo _ moved
    · exact idle (by simp [trasPedido, atender, escribirBloque, hp])
    · exact idle (by simp [trasPedido, atender, escribirBloque, none_])
    · exact idle (trasPedido_commited hc closed (by simp))
  | flush f paginas cantidad =>
    rcases abierta_or s f with ⟨c, open_⟩ | hp | none_ | ⟨c, hc, closed⟩
    · exact .flush f paginas cantidad c open_
    · exact idle (by simp [trasPedido, atender, flushArchivo, hp])
    · exact idle (by simp [trasPedido, atender, flushArchivo, none_])
    · exact idle (trasPedido_commited hc closed (by simp))
  | commit f =>
    rcases commit_cases sb md5 f sano with ⟨same, _⟩ | ⟨c, unprotected, hc, open_, done⟩
    · exact idle same
    · exact .commit f c ⟨unprotected, hc, open_⟩ _ done
  | eliminar f =>
    rcases eliminarFileTag_cases sb s f with same | ⟨c, hp, hc, _⟩
    · exact idle (congrArg Prod.snd same)
    · obtain ⟨_, folders, freed⟩ := eliminarFileTag_efecto sano.fisicos hp hc (all f c hc).1
      exact .eliminar f c hp hc _ folders freed.toLiberacion

end StorageEfectos
