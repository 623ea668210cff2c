import WindowDecor.Desktop.Basic
import WindowDecor.WindowManager

/-!
# The desktop in memory as a window manager

Readings leave the desktop as it is, and everything else is one of its changes.  Asking for icons is
the one call that does both: it is recorded, and it is answered.
-/

namespace WindowDecor

instance : WindowManager Desktop where
  monitorOf w := fun d => (d.monitorOf? w, d)
  workArea m := fun d => (d.workArea m, d)
  bounds w := fun d => (d.bounds w, d)
  move w origin := fun d => ((), d.move w origin)
  resize w width height := fun d => ((), d.resize w width height)
  flash w count := fun d => ((), d.flash w count)
  extractIcons path := fun d => (d.iconsAt path, d.noteExtraction path)
  setIcon w slot icon := fun d => ((), d.setIcon w slot icon)
  style w := fun d => (d.style w, d)
  setStyle w style := fun d => ((), d.setStyle w style)
  setProgress bar state := fun d => ((), d.setProgress bar state)

end WindowDecor
