import Mathlib.Data.List.TakeWhile
import MasterOfFiles.Storage.Pedidos

/-!
WRITE_BLOCK and a FLUSH of one page. The checks come in another order, the metadata is written
at another moment, but from any state both leave the same one, bitmap.bin apart. Names are simple
ones (Nombre).
-/
namespace StorageDosEscrituras
open StorageEstado StorageArchivos StorageEscritura StoragePedidos LinkDirectory

variable {Hash : Type} {sb : Superbloque} {s s' : Storage Hash} {f : FileTag} {c : Carpeta}
  {bloque : Int} {contenido : Bytes}

def SalvoMapa (s s' : Storage Hash) : Prop := { s with bitmapEnDisco := s'.bitmapEnDisco } = s'

def Iguales (r r' : Bool × Storage Hash) : Prop := r.1 = r'.1 ∧ SalvoMapa r.2 r'.2

structure Llena (sb : Superbloque) (contenido : Bytes) : Prop where
  largo : contenido.length = sb.tamanioBloque
  sinCeros : ∀ b ∈ contenido, b ≠ 0

theorem contenidoDeCadena_llena (full : Llena sb contenido) :
    contenidoDeCadena sb contenido = contenido := by
  have whole : contenido.takeWhile (fun b => decide (b ≠ 0)) = contenido :=
    List.takeWhile_eq_self_iff.mpr fun b hb => decide_eq_true (full.sinCeros b hb)
  simp only [contenidoDeCadena, whole, full.largo, Nat.sub_self, List.replicate_zero,
    List.append_nil]

theorem iguales_final (s : Storage Hash) (b : Nat) (contenido : Bytes) :
    Iguales (escribirEnFinal s b contenido)
      (if (escribirEnFinal s b contenido).1 then
        (true, (escribirEnFinal s b contenido).2.persistirBitmap)
      else (false, (escribirEnFinal s b contenido).2)) := by
  cases ok : (escribirEnFinal s b contenido).1 with
  | true => exact ⟨ok, rfl⟩
  | false => exact ⟨ok, rfl⟩

theorem flushArchivo_una (hp : esProtegido f = false) (hc : s.carpetas.lookup f = some c)
    (open_ : verificarSiCommited s f = false) :
    flushArchivo sb s f [(bloque, contenido)] 1 =
      let fase := prepararPagina sb f c ⟨s, true, []⟩ (bloque, contenido)
      let conMetadata :=
        if fase.exitosas ∧ (fase.pendientes.any fun e => e.nuevoValor.isSome) then
          guardarBlocks fase.storage f (actualizarBlocks c.blocks fase.pendientes)
        else fase.storage
      let escrito := escribirPendientes sb { fase with storage := conMetadata }
      if escrito.1 then (true, escrito.2.persistirBitmap) else (false, escrito.2) := by
  simp [flushArchivo, hp, hc, open_]

theorem iguales_rechazo (hp : esProtegido f = false) (hc : s.carpetas.lookup f = some c)
    (open_ : verificarSiCommited s f = false)
    (refused : prepararPagina sb f c ⟨s, true, []⟩ (bloque, contenido) = ⟨s', false, []⟩) :
    Iguales (false, s') (flushArchivo sb s f [(bloque, contenido)] 1) := by
  rw [flushArchivo_una hp hc open_, refused]
  exact ⟨rfl, rfl⟩

theorem iguales_pendiente (hp : esProtegido f = false) (hc : s.carpetas.lookup f = some c)
    (open_ : verificarSiCommited s f = false) (full : Llena sb contenido) (b i : Nat)
    (nuevo : Option Nat)
    (ready : prepararPagina sb f c ⟨s, true, []⟩ (bloque, contenido) =
      ⟨s', true, [⟨b, contenido, i, nuevo⟩]⟩) :
    Iguales (escribirEnFinal
        (nuevo.elim s' fun v => guardarBlocks s' f (c.blocks.set i v)) b contenido)
      (flushArchivo sb s f [(bloque, contenido)] 1) := by
  rw [flushArchivo_una hp hc open_, ready]
  have cut : contenido.take sb.tamanioBloque = contenido := List.take_of_length_le full.largo.le
  cases nuevo with
  | none =>
    simpa [escribirPendientes, cut] using iguales_final s' b contenido
  | some v =>
    simpa [escribirPendientes, actualizarBlocks, cut] using
      iguales_final (guardarBlocks s' f (c.blocks.set i v)) b contenido

/-- From any state, a block written with WRITE_BLOCK or with a FLUSH of that page. -/
theorem escribir_como_flush (full : Llena sb contenido) (s : Storage Hash) (f : FileTag)
    (bloque : Int) :
    Iguales (escribirBloque sb s f bloque contenido)
      (flushArchivo sb s f [(bloque, contenido)] 1) := by
  cases hp : esProtegido f with
  | true => simp [escribirBloque, flushArchivo, hp, Iguales, SalvoMapa]
  | false =>
    cases hc : s.carpetas.lookup f with
    | none =>
      simp [escribirBloque, flushArchivo, verificarSiCommited, hp, hc, Iguales, SalvoMapa]
    | some c =>
      cases open_ : verificarSiCommited s f with
      | true => simp [escribirBloque, flushArchivo, hp, hc, open_, Iguales, SalvoMapa]
      | false =>
        simp only [escribirBloque, hp, hc, open_, Bool.false_eq_true, if_false]
        by_cases range : bloque < 0 ∨ (sb.bloquesLogicos c.tamanio : Int) ≤ bloque
        · rw [if_pos range]
          exact iguales_rechazo hp hc open_ (by simp only [prepararPagina, if_pos range])
        by_cases short : c.blocks.length ≤ bloque.toNat
        · rw [if_neg range, if_pos short]
          exact iguales_rechazo hp hc open_
            (by simp only [prepararPagina, if_neg range, if_pos short])
        rw [if_neg range, if_neg short]
        cases hd : s.destino f bloque.toNat with
        | none =>
          exact iguales_rechazo hp hc open_
            (by simp only [prepararPagina, if_neg range, if_neg short, hd])
        | some b =>
          dsimp only
          by_cases alone : s.nlink b = 1
          · rw [if_pos alone, contenidoDeCadena_llena full]
            exact iguales_pendiente hp hc open_ full _ bloque.toNat none
              (by simp [prepararPagina, if_neg range, if_neg short, hd, if_pos alone])
          rw [if_neg alone]
          cases copy : escrituraDiferenciada sb s f bloque.toNat
              (c.blocks.getD bloque.toNat 0) with
          | sinEspacio =>
            exact iguales_rechazo hp hc open_ (by
              simp only [prepararPagina, if_neg range, if_neg short, hd, if_neg alone, copy])
          | revertida s' =>
            exact iguales_rechazo hp hc open_ (by
              simp only [prepararPagina, if_neg range, if_neg short, hd, if_neg alone, copy])
          | hecha nuevo s' =>
            rw [contenidoDeCadena_llena full]
            exact iguales_pendiente hp hc open_ full _ bloque.toNat (some nuevo) (by
              simp only [prepararPagina, if_neg range, if_neg short, hd, if_neg alone, copy,
                List.nil_append])

theorem escribir_como_flush_a1 :
    Iguales (escribirBloque discoDeSeis (trasPedidos discoDeSeis (id : Bytes → Bytes)
        (nuevoCon a1 120)) a1 0 [121])
      (flushArchivo discoDeSeis (trasPedidos discoDeSeis (id : Bytes → Bytes)
        (nuevoCon a1 120)) a1 [(0, [121])] 1) :=
  escribir_como_flush ⟨rfl, by simp⟩ _ a1 0

end StorageDosEscrituras
