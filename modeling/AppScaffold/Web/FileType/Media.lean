import AppScaffold.Web.FileType.Basic

/-!
# Files to look at and to listen to

Pictures, sounds, films, fonts, models and messages.
-/

set_option autoImplicit false

namespace AppScaffold.Web

def imageTypes : FileTypeTable := [
  ("image/aces", ["exr"]),
  ("image/apng", ["apng"]),
  ("image/avci", ["avci"]),
  ("image/avcs", ["avcs"]),
  ("image/avif", ["avif"]),
  ("image/bmp", ["bmp", "dib"]),
  ("image/cgm", ["cgm"]),
  ("image/cis-cod", ["cod"]),
  ("image/dicom-rle", ["drle"]),
  ("image/fits", ["fits"]),
  ("image/g3fax", ["g3"]),
  ("image/gif", ["gif"]),
  ("image/heic", ["heic"]),
  ("image/heic-sequence", ["heics"]),
  ("image/heif", ["heif"]),
  ("image/heif-sequence", ["heifs"]),
  ("image/hej2k", ["hej2"]),
  ("image/hsj2", ["hsj2"]),
  ("image/ief", ["ief"]),
  ("image/jls", ["jls"]),
  ("image/jp2", ["jp2", "jpg2"]),
  ("image/jpeg", ["jpe", "jpeg", "jpg"]),
  ("image/jph", ["jph"]),
  ("image/jphc", ["jhc"]),
  ("image/jpm", ["jpm"]),
  ("image/jpx", ["jpf", "jpx"]),
  ("image/jxl", ["jxl"]),
  ("image/jxr", ["jxr"]),
  ("image/jxra", ["jxra"]),
  ("image/jxrs", ["jxrs"]),
  ("image/jxs", ["jxs"]),
  ("image/jxsc", ["jxsc"]),
  ("image/jxsi", ["jxsi"]),
  ("image/jxss", ["jxss"]),
  ("image/ktx", ["ktx"]),
  ("image/pict", ["pct", "pic", "pict"]),
  ("image/pjpeg", ["jfif"]),
  ("image/png", ["png", "pnz"]),
  ("image/prs.btif", ["btif"]),
  ("image/prs.pti", ["pti"]),
  ("image/sgi", ["sgi"]),
  ("image/svg+xml", ["svg", "svgz"]),
  ("image/t38", ["t38"]),
  ("image/tiff", ["tif", "tiff"]),
  ("image/tiff-fx", ["tfx"]),
  ("image/vnd.airzip.accelerator.azv", ["azv"]),
  ("image/vnd.dece.graphic", ["uvg", "uvi", "uvvg", "uvvi"]),
  ("image/vnd.djvu", ["djv", "djvu"]),
  ("image/vnd.dvb.subtitle", ["sub"]),
  ("image/vnd.fastbidsheet", ["fbs"]),
  ("image/vnd.fpx", ["fpx"]),
  ("image/vnd.fst", ["fst"]),
  ("image/vnd.fujixerox.edmics-mmr", ["mmr"]),
  ("image/vnd.fujixerox.edmics-rlc", ["rlc"]),
  ("image/vnd.ms-dds", ["dds"]),
  ("image/vnd.ms-modi", ["mdi"]),
  ("image/vnd.ms-photo", ["wdp"]),
  ("image/vnd.net-fpx", ["npx"]),
  ("image/vnd.rn-realflash", ["rf"]),
  ("image/vnd.tencent.tap", ["tap"]),
  ("image/vnd.valve.source.texture", ["vtf"]),
  ("image/vnd.wap.wbmp", ["wbmp"]),
  ("image/vnd.xiff", ["xif"]),
  ("image/webp", ["webp"]),
  ("image/x-3ds", ["3ds"]),
  ("image/x-cmu-raster", ["ras"]),
  ("image/x-cmx", ["cmx"]),
  ("image/x-freehand", ["fh", "fh4", "fh5", "fh7", "fhc"]),
  ("image/x-icon", ["ico"]),
  ("image/x-jg", ["art"]),
  ("image/x-jng", ["jng"]),
  ("image/x-macpaint", ["mac", "pnt", "pntg"]),
  ("image/x-mrsid-image", ["sid"]),
  ("image/x-portable-anymap", ["pnm"]),
  ("image/x-portable-bitmap", ["pbm"]),
  ("image/x-portable-graymap", ["pgm"]),
  ("image/x-portable-pixmap", ["ppm"]),
  ("image/x-quicktime", ["qti", "qtif"]),
  ("image/x-rgb", ["rgb"]),
  ("image/x-tga", ["tga"]),
  ("image/x-xbitmap", ["xbm"]),
  ("image/x-xpixmap", ["xpm"]),
  ("image/x-xwindowdump", ["xwd"])]

def soundAndFilmTypes : FileTypeTable := [
  ("audio/aac", ["aac", "adts"]),
  ("audio/ac3", ["ac3"]),
  ("audio/aiff", ["aif", "aifc", "aiff", "cdda"]),
  ("audio/annodex", ["axa"]),
  ("audio/audible", ["aa"]),
  ("audio/basic", ["au", "snd"]),
  ("audio/flac", ["flac"]),
  ("audio/m4a", ["m4a"]),
  ("audio/m4b", ["m4b"]),
  ("audio/m4p", ["m4p"]),
  ("audio/mid", ["mid", "midi", "rmi"]),
  ("audio/midi", ["kar"]),
  ("audio/mobile-xmf", ["mxmf"]),
  ("audio/mp4", ["mp4a"]),
  ("audio/mpeg", ["m2a", "m3a", "mp2a", "mp3", "mpga"]),
  ("audio/ogg", ["oga", "ogg", "opus", "spx"]),
  ("audio/s3m", ["s3m"]),
  ("audio/scpls", ["pls"]),
  ("audio/silk", ["sil"]),
  ("audio/vnd.audible.aax", ["aax"]),
  ("audio/vnd.dece.audio", ["uva", "uvva"]),
  ("audio/vnd.digital-winds", ["eol"]),
  ("audio/vnd.dlna.adts", ["adt"]),
  ("audio/vnd.dra", ["dra"]),
  ("audio/vnd.dts", ["dts"]),
  ("audio/vnd.dts.hd", ["dtshd"]),
  ("audio/vnd.lucent.voice", ["lvp"]),
  ("audio/vnd.ms-playready.media.pya", ["pya"]),
  ("audio/vnd.nuera.ecelp4800", ["ecelp4800"]),
  ("audio/vnd.nuera.ecelp7470", ["ecelp7470"]),
  ("audio/vnd.nuera.ecelp9600", ["ecelp9600"]),
  ("audio/vnd.rip", ["rip"]),
  ("audio/wav", ["wav", "wave"]),
  ("audio/webm", ["weba"]),
  ("audio/x-caf", ["caf"]),
  ("audio/x-gsm", ["gsm"]),
  ("audio/x-m4r", ["m4r"]),
  ("audio/x-matroska", ["mka"]),
  ("audio/x-mpegurl", ["m3u", "m3u8"]),
  ("audio/x-ms-wax", ["wax"]),
  ("audio/x-ms-wma", ["wma"]),
  ("audio/x-pn-realaudio", ["ra", "ram"]),
  ("audio/x-pn-realaudio-plugin", ["rpm"]),
  ("audio/x-sd2", ["sd2"]),
  ("audio/x-smd", ["smd", "smx", "smz"]),
  ("audio/xm", ["xm"]),
  ("video/3gpp", ["3gp", "3gpp"]),
  ("video/3gpp2", ["3g2", "3gp2"]),
  ("video/annodex", ["axv"]),
  ("video/divx", ["divx"]),
  ("video/h261", ["h261"]),
  ("video/h263", ["h263"]),
  ("video/h264", ["h264"]),
  ("video/jpeg", ["jpgv"]),
  ("video/jpm", ["jpgm"]),
  ("video/mj2", ["mj2", "mjp2"]),
  ("video/mp4", ["f4v", "mp4", "mp4v", "mpg4"]),
  ("video/mpeg", ["m1v", "m2v", "mod", "mp2", "mp2v", "mpa", "mpe", "mpeg", "mpg", "mpv2", "vbk"]),
  ("video/ogg", ["ogv"]),
  ("video/quicktime", ["mov", "mqv", "qt"]),
  ("video/vnd.dece.hd", ["uvh", "uvvh"]),
  ("video/vnd.dece.mobile", ["uvm", "uvvm"]),
  ("video/vnd.dece.pd", ["uvp", "uvvp"]),
  ("video/vnd.dece.sd", ["uvs", "uvvs"]),
  ("video/vnd.dece.video", ["uvv", "uvvv"]),
  ("video/vnd.dlna.mpeg-tts", ["m2t", "m2ts", "mts", "ts", "tts"]),
  ("video/vnd.dvb.file", ["dvb"]),
  ("video/vnd.fvt", ["fvt"]),
  ("video/vnd.mpegurl", ["m4u", "mxu"]),
  ("video/vnd.ms-playready.media.pyv", ["pyv"]),
  ("video/vnd.uvvu.mp4", ["uvu", "uvvu"]),
  ("video/vnd.vivo", ["viv"]),
  ("video/webm", ["webm"]),
  ("video/x-dv", ["dif", "dv"]),
  ("video/x-fli", ["fli"]),
  ("video/x-flv", ["flv"]),
  ("video/x-ivf", ["ivf"]),
  ("video/x-la-asf", ["lsf", "lsx"]),
  ("video/x-m4v", ["m4v"]),
  ("video/x-matroska", ["mks", "mkv"]),
  ("video/x-matroska-3d", ["mk3d"]),
  ("video/x-mng", ["mng"]),
  ("video/x-ms-asf", ["asf", "asr", "asx", "nsc"]),
  ("video/x-ms-vob", ["vob"]),
  ("video/x-ms-wm", ["wm"]),
  ("video/x-ms-wmp", ["wmp"]),
  ("video/x-ms-wmv", ["wmv"]),
  ("video/x-ms-wmx", ["wmx"]),
  ("video/x-ms-wvx", ["wvx"]),
  ("video/x-msvideo", ["avi"]),
  ("video/x-sgi-movie", ["movie"]),
  ("video/x-smv", ["smv"])]

/-- Fonts, models, messages and drawings. -/
def otherMediaTypes : FileTypeTable := [
  ("chemical/x-cdx", ["cdx"]),
  ("chemical/x-cif", ["cif"]),
  ("chemical/x-cmdf", ["cmdf"]),
  ("chemical/x-cml", ["cml"]),
  ("chemical/x-csml", ["csml"]),
  ("chemical/x-xyz", ["xyz"]),
  ("drawing/x-dwf", ["dwf"]),
  ("font/collection", ["ttc"]),
  ("font/otf", ["otf"]),
  ("font/ttf", ["ttf"]),
  ("font/woff", ["woff"]),
  ("font/woff2", ["woff2"]),
  ("message/disposition-notification", ["disposition-notification"]),
  ("message/global", ["u8msg"]),
  ("message/global-delivery-status", ["u8dsn"]),
  ("message/global-disposition-notification", ["u8mdn"]),
  ("message/global-headers", ["u8hdr"]),
  ("message/rfc822", ["eml", "mht", "mhtml", "mime", "nws"]),
  ("model/3mf", ["3mf"]),
  ("model/gltf+json", ["gltf"]),
  ("model/gltf-binary", ["glb"]),
  ("model/iges", ["iges", "igs"]),
  ("model/mesh", ["mesh", "msh", "silo"]),
  ("model/vnd.collada+xml", ["dae"]),
  ("model/vnd.gdl", ["gdl"]),
  ("model/vnd.gtw", ["gtw"]),
  ("model/vnd.opengex", ["ogex"]),
  ("model/vnd.parasolid.transmit.binary", ["x_b"]),
  ("model/vnd.parasolid.transmit.text", ["x_t"]),
  ("model/vnd.usdz+zip", ["usdz"]),
  ("model/vnd.valve.source.compiled-map", ["bsp"]),
  ("model/vnd.vtu", ["vtu"]),
  ("model/vrml", ["vrml"]),
  ("model/x3d+binary", ["x3db", "x3dbz"]),
  ("model/x3d+vrml", ["x3dv", "x3dvz"]),
  ("model/x3d+xml", ["x3d", "x3dz"]),
  ("x-conference/x-cooltalk", ["ice"]),
  ("x-world/x-vrml", ["flr", "wrl", "wrz", "xaf", "xof"])]

end AppScaffold.Web
