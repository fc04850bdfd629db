import Worksheet.Calendar.ZoneEntry

/-!
# Zones: Europe and the Atlantic Ocean

One entry for each zone of the time zone database, in the order of their names.
-/

namespace Worksheet.Zones

def europe : List ZoneEntry := [
  ⟨"Atlantic/Azores", [⟨"LMT", (-6160)⟩, ⟨"HMT", (-6872)⟩, ⟨"-01", (-3600)⟩, ⟨"-02", (-7200)⟩,
      ⟨"+00", 0⟩, ⟨"WEST", 3600⟩, ⟨"WET", 0⟩],
    ["l9phu8Bem124wD2bufw0C6zxg0D66800Cbq580D71s40Cbq580D71s40Cbq580D73ms0Cbq580D71s40Cbq580D",
     "1b2g00C8so00Dst1c0C8n400D9q000C902o0Da2yo0C902o0Da2yo0C8n400Dst1c0C8n400D9d1c0C9d1c0Dsg2o0C",
     "9d1c0D902o0C9q000Da2yo0C8n400D9d1c0C9d1c0D902o0C9q000Da2yo0Cb5uo0D51hc0Cbmio0D99c00C9ew00D",
     "88ao0C25p80E5reo0C3lpg0D779c0C1sqk0E6uao0C38qs0D6uao0C25p80E6hc00C38qs0D6uao0C25p80E6hc00C",
     "38qs0D8a5c0C9d1c0D9d9o0C9d1c0D9d1c0C9d1c0D9d1c0C9d1c0D9d1c0C9d1c0D9d1c0C9q000D9d1c0C9d1c0D",
     "9d1c0C9d1c0D9d1c0C9d1c0D9d1c0C9d1c0D9d1c0C9q000D9d1c0C9d1c0D9d1c0C9d1c0D9d1c0C9d1c0D9d1c0C",
     "9d1c0D9d1c0C9d1c0D9d1c0C9q000D9d1c0C9d1c0D9d1c0C9d1c0D9d1c0C9d1c0D9d1c0C9d1c0C82xuc0E9d1c0C",
     "9d1c0E9d1c0C9d1c0E9q000C9d1c0E9d1c0C9d1c0E9d1c0C9d1c0E9d1c0C9d1c0E9d1c0C9d1c0E9d1c0C9d1c0E",
     "9q000C9d1c0E9d1c0C9d1c0E9d1c0C4olg0G4ofw0F46000E571c0C9d1c0E9d1c0C9d1c0E9d1c0C9q000E"],
    .seasonal ⟨"-01", (-3600)⟩ ⟨"+00", 0⟩ ⟨3, 5, 0, 0⟩ ⟨10, 5, 0, 3600⟩⟩,
  ⟨"Atlantic/Bermuda", [⟨"LMT", (-15558)⟩, ⟨"BST", (-11958)⟩, ⟨"BMT", (-15558)⟩, ⟨"ADT", (-10800)⟩,
      ⟨"AST", (-14400)⟩],
    ["oegyfaCe851c0B95jw0Ca16s0B7yyk0C5w74c0E69z5ruDeefw0E7x9g0Dbiqk0E6udg0Dc8nw0E6hes0Dc8nw0E",
     "st440D64ak0Ecyqs0D5ed80Edbpg0D5ed80Edoo40D51ek0Edoo40D51ek0Edoo40D5ed80E1xuw40D7x3w0E",
     "94r9g0D9cyk0E9d440D9cyk0E9d440D9px80E905g0D9px80E9d440D9cyk0E9d440D9cyk0E9d440D9cyk0E9d440D",
     "9cyk0E9d440D9px80E905g0D9px80E9d440D9cyk0E9d440D9cyk0E9d440D9cyk0E8a840Dafuk0E8a840Dast80E",
     "7x9g0Dast80E7x9g0Dast80E8a840Dafuk0E8a840Dafuk0E8a840Dast80E7x9g0Dast80E7x9g0Dast80E8a840D",
     "afuk0E8a840Dafuk0E8a840Dafuk0E8a840Dast80E7x9g0Dast80E7x9g0Dast80E8a840Dafuk0E8a840Dafuk0E",
     "8a840Dast80E7x9g0Dast80E7x9g0Dast80E6udg0D"],
    .seasonal ⟨"AST", (-14400)⟩ ⟨"ADT", (-10800)⟩ ⟨3, 2, 0, 7200⟩ ⟨11, 1, 0, 7200⟩⟩,
  ⟨"Atlantic/Canary", [⟨"LMT", (-3696)⟩, ⟨"-01", (-3600)⟩, ⟨"WET", 0⟩, ⟨"WEST", 3600⟩],
    ["156ojxsBctvupcChhq7s0D905g0C9d1c0D9d1c0C9d1c0D9d1c0C9d1c0D9d1c0C9d1c0D9q000C9d1c0D9d1c0C",
     "9d1c0D9d1c0C9d1c0D9d1c0C9d1c0D9d1c0C9d1c0D9d1c0C9d1c0D9q000C9d1c0D9d1c0C9d1c0D9d1c0C9d1c0D",
     "9d1c0C9d1c0D9d1c0C9d1c0D9d1c0C9q000D"],
    .seasonal ⟨"WET", 0⟩ ⟨"WEST", 3600⟩ ⟨3, 5, 0, 3600⟩ ⟨10, 5, 0, 7200⟩⟩,
  ⟨"Atlantic/Cape_Verde", [⟨"LMT", (-5644)⟩, ⟨"-02", (-7200)⟩, ⟨"-01", (-3600)⟩],
    ["zvqjz4Bg06lc0C1mn180Bfpqwc0C"],
    .steady ⟨"-01", (-3600)⟩⟩,
  ⟨"Atlantic/Faroe", [⟨"LMT", (-1624)⟩, ⟨"WET", 0⟩, ⟨"WEST", 3600⟩],
    ["xt3ec8B127keuwC9d1c0B9d1c0C9d1c0B9d1c0C9d1c0B9d1c0C9q000B9d1c0C9d1c0B9d1c0C9d1c0B9d1c0C",
     "9d1c0B9d1c0C9d1c0B9d1c0C9d1c0B9d1c0C9q000B9d1c0C9d1c0B9d1c0C9d1c0B9d1c0C9d1c0B9d1c0C9d1c0B",
     "9d1c0C9d1c0B9q000C"],
    .seasonal ⟨"WET", 0⟩ ⟨"WEST", 3600⟩ ⟨3, 5, 0, 3600⟩ ⟨10, 5, 0, 7200⟩⟩,
  ⟨"Atlantic/Madeira", [⟨"LMT", (-4056)⟩, ⟨"FMT", (-4056)⟩, ⟨"+00", 0⟩, ⟨"-01", (-3600)⟩,
      ⟨"+01", 3600⟩, ⟨"WET", 0⟩, ⟨"WEST", 3600⟩],
    ["l9pg7sBem10zcD2bufw0C6zxg0D66800Cbq580D71s40Cbq580D71s40Cbq580D73ms0Cbq580D71s40Cbq580D",
     "1b2g00C8so00Dst1c0C8n400D9q000C902o0Da2yo0C902o0Da2yo0C8n400Dst1c0C8n400D9d1c0C9d1c0Dsg2o0C",
     "9d1c0D902o0C9q000Da2yo0C8n400D9d1c0C9d1c0D902o0C9q000Da2yo0Cb5uo0D51hc0Cbmio0D99c00C9ew00D",
     "88ao0C25p80E5reo0C3lpg0D779c0C1sqk0E6uao0C38qs0D6uao0C25p80E6hc00C38qs0D6uao0C25p80E6hc00C",
     "38qs0D8a5c0C9d1c0D9d9o0C9d1c0D9d1c0C9d1c0D9d1c0C9d1c0D9d1c0C9d1c0D9d1c0C9q000D9d1c0C9d1c0D",
     "9d1c0C9d1c0D9d1c0C9d1c0D9d1c0C9d1c0D9d1c0C9q000D9d1c0C9d1c0D9d1c0C9d1c0D9d1c0C9d1c0D9d1c0C",
     "9d1c0D9d1c0C9d1c0D9d1c0C9q000D9d1c0C9d1c0D9d1c0C9d1c0D9d1c0C9d1c0D9d1c0C9d1c0F83at00G902o0F",
     "9d1c0G9d1c0F9d1c0G9q000F9d1c0G9d1c0F9d1c0G9d440F9d1c0G9d1c0F9d1c0G9d1c0F9d1c0G9d1c0F9d1c0G",
     "9q000F9d1c0G9d1c0F9d1c0G9d1c0F9d1c0G9d1c0F9d1c0G9d1c0F9d1c0G9d1c0F9q000G"],
    .seasonal ⟨"WET", 0⟩ ⟨"WEST", 3600⟩ ⟨3, 5, 0, 3600⟩ ⟨10, 5, 0, 7200⟩⟩,
  ⟨"Atlantic/South_Georgia", [⟨"LMT", (-8768)⟩, ⟨"-02", (-7200)⟩],
    ["oegt6oB"],
    .steady ⟨"-02", (-7200)⟩⟩,
  ⟨"Atlantic/Stanley", [⟨"LMT", (-13884)⟩, ⟨"SMT", (-13884)⟩, ⟨"-03", (-10800)⟩, ⟨"-04", (-14400)⟩,
      ⟨"-02", (-7200)⟩],
    ["oegx4sBbkx9c0DdbvxqcC8zzw0D9q2s0C8zzw0Da31g0C8zzw0D9q2s0C8zzw0D9q2s0C8zzw0D9q2s0C4xp80D",
     "l1pus0C7k580Eb5rw0C77c40Ebiqk0C77c40Cb5uo0D7kas0Cb5rw0D7kas0Cb5rw0D7kas0Cb5rw0D7kas0Cbiqk0D",
     "77c40Cbiqk0D7kas0Cb5rw0D7kas0Cb5rw0D7kas0Cb5rw0D7kas0Cb5rw0D7kas0Cbiqk0D7kas0Cb5rw0D7kas0C",
     "b5rw0D7kas0Cb5rw0D7kas0Cb5rw0D7kas0Cb5xg0D77c40Cbvp80D6udg0Cbvp80D77c40Cbiqk0D77c40Cbiqk0D",
     "77c40Cbiqk0D77c40Cbiqk0D77c40Cbvp80D77c40Cbiqk0D77c40Cbiqk0D77c40C"],
    .steady ⟨"-03", (-10800)⟩⟩,
  ⟨"Europe/Andorra", [⟨"LMT", 364⟩, ⟨"WET", 0⟩, ⟨"CET", 3600⟩, ⟨"CEST", 7200⟩],
    ["u53i50Bnvgqy4Ck3ctg0D9d1c0C9d1c0D9d1c0C9d1c0D9d1c0C9d1c0D9d1c0C9d1c0D9d1c0C9d1c0D9q000C",
     "9d1c0D9d1c0C9d1c0D9d1c0C9d1c0D9d1c0C9d1c0D9d1c0C9d1c0D9d1c0C9q000D"],
    .seasonal ⟨"CET", 3600⟩ ⟨"CEST", 7200⟩ ⟨3, 5, 0, 7200⟩ ⟨10, 5, 0, 10800⟩⟩,
  ⟨"Europe/Astrakhan", [⟨"LMT", 11532⟩, ⟨"+03", 10800⟩, ⟨"+05", 18000⟩, ⟨"+04", 14400⟩],
    ["16bew6sB37bv8cDqi27w0C9et80D9d440C9et80D9d440C9et80D9eys0C9d6w0D9d1c0C9d1c0D9d1c0C9d1c0D",
     "9d1c0C9d1c0D9d1c0C9d1c0D9d1c0D9d440B9d1c0D9q000B9d1c0Dipzw0D9d440B9d1c0D9d1c0B9d1c0D9d1c0B",
     "9d1c0D9d1c0B9q000Dasw00B7x6o0Dasw00B7x6o0Dasw00B7x6o0Db5uo0B7k800Db5uo0B7k800Db5uo0B7x6o0D",
     "asw00B7x6o0Dasw00B7x6o0Db5uo0B7k800Db5uo0B7k800Db5uo0B7k800Db5uo0B7x6o0Dasw00B7x6o0Dasw00B",
     "7x6o0Db5uo0B7k800D1vbzw0Bqnc40D"],
    .steady ⟨"+04", 14400⟩⟩,
  ⟨"Europe/Athens", [⟨"LMT", 5692⟩, ⟨"AMT", 5692⟩, ⟨"EEST", 10800⟩, ⟨"EET", 7200⟩, ⟨"CET", 3600⟩,
      ⟨"CEST", 7200⟩],
    ["rdk210Baw2tdoD8bjasgC2vmk0D4hiw40C16ik0Fscog0E7lx40F9o2k0E9eys0D4atzw0C6djw0Dbplus0Cbq800D",
     "71uw0C9d1c0D902o0C91xc0D9o5c0C905g0D9qgo0C9akg0D9iik0C99980D9dcg0C9d1c0D9d1c0C9d1c0D9d1c0C",
     "9d1c0D9d1c0C9q000D9d1c0C9d1c0D9d1c0C9d1c0D9d1c0C9d1c0D9d1c0C9d1c0D9d1c0C9d1c0D9d1c0C9q000D",
     "9d1c0C9d1c0D9d1c0C9d1c0D9d1c0C9d1c0D9d1c0C9d1c0D9d1c0C9d1c0D9q000C"],
    .seasonal ⟨"EET", 7200⟩ ⟨"EEST", 10800⟩ ⟨3, 5, 0, 10800⟩ ⟨10, 5, 0, 14400⟩⟩,
  ⟨"Europe/Belgrade", [⟨"LMT", 4920⟩, ⟨"CET", 3600⟩, ⟨"CEST", 7200⟩],
    ["l9p9agBtwhnkoCswz00B7k800C9q000B9d1c0C9d1c0Bb7pc0C6qlc0Bjl1hc0C9d1c0B9d1c0C9q000B9d1c0C",
     "9d1c0B9d1c0C9d1c0B9d1c0C9d1c0B9d1c0C9d1c0B9d1c0C9d1c0B9d1c0C9q000B9d1c0C9d1c0B9d1c0C9d1c0B",
     "9d1c0C9d1c0B9d1c0C9d1c0B9d1c0C9d1c0B9q000C"],
    .seasonal ⟨"CET", 3600⟩ ⟨"CEST", 7200⟩ ⟨3, 5, 0, 7200⟩ ⟨10, 5, 0, 10800⟩⟩,
  ⟨"Europe/Berlin", [⟨"LMT", 3208⟩, ⟨"CEST", 7200⟩, ⟨"CET", 3600⟩, ⟨"CEMT", 10800⟩],
    ["q3gum0Cc1n0x4B7ves0Ca4yw0B7x6o0Casw00B7x6o0Cb8qdc0B1cm000C7k800B9q000C9d1c0B9d1c0C9d1c0B",
     "2o7w0D6bs00B2txg0C7k800B91xc0C9b9g0B1sqk0D2inw0B51k40Ca2yo0B8n400C9q000B902o0Cfx91c0B902o0C",
     "9d1c0B9d1c0C9d1c0B9d1c0C9d1c0B9d1c0C9d1c0B9q000C9d1c0B9d1c0C9d1c0B9d1c0C9d1c0B9d1c0C9d1c0B",
     "9d1c0C9d1c0B9d1c0C9d1c0B9q000C9d1c0B9d1c0C9d1c0B9d1c0C9d1c0B9d1c0C9d1c0B9d1c0C9d1c0B9d1c0C",
     "9q000B"],
    .seasonal ⟨"CET", 3600⟩ ⟨"CEST", 7200⟩ ⟨3, 5, 0, 7200⟩ ⟨10, 5, 0, 10800⟩⟩,
  ⟨"Europe/Brussels", [⟨"LMT", 1050⟩, ⟨"BMT", 1050⟩, ⟨"WET", 0⟩, ⟨"CET", 3600⟩, ⟨"CEST", 7200⟩,
      ⟨"WEST", 3600⟩],
    ["j6js9yB6forh6Cbr3hc0Drrx80E7vc00Da4yw0E7x6o0Dasw00E7x6o0D2wh40C5omo0Fb5uo0C6uao0Fcyo00C",
     "7ayo0Fbko00C7rmo0Fa2yo0Ca2yo0F8n400C902o0F9q000C9d1c0F9d1c0Ca2yo0F8n400C9q000F902o0Ca2yo0F",
     "90b00Ca2yo0F8n400C9q000F902o0Ca2yo0F8n400C9d1c0F9d1c0C902o0Fa2yo0C9d1c0F9d1c0C902o0F9q000C",
     "a2yo0F8n400C9d1c0F9d1c0C902o0F9q000Ca2yo0Fb5uo0C51hc0F4deo0E1a36k0D7k800E9q000D9d1c0E8l9c0D",
     "a4tc0E8l9c0Dclpc0E79400Dfwu800E902o0D9q000E9d1c0D9d1c0E9d1c0D9q000E902o0D9d1c0E9d1c0D9d1c0E",
     "9d1c0D9d1c0E9d1c0D9d1c0E9q000D9d1c0E9d1c0D9d1c0E9d1c0D9d1c0E9d1c0D9d1c0E9d1c0D9d1c0E9d1c0D",
     "9d1c0E9q000D9d1c0E9d1c0D9d1c0E9d1c0D9d1c0E9d1c0D9d1c0E9d1c0D9d1c0E9d1c0D9q000E"],
    .seasonal ⟨"CET", 3600⟩ ⟨"CEST", 7200⟩ ⟨3, 5, 0, 7200⟩ ⟨10, 5, 0, 10800⟩⟩,
  ⟨"Europe/Bucharest", [⟨"LMT", 6264⟩, ⟨"BMT", 6264⟩, ⟨"EEST", 10800⟩, ⟨"EET", 7200⟩],
    ["pb9yx4Bkrxxc0Dfj8m0C6w5c0D9d1c0C9d1c0D9q000C9d1c0D9d1c0C9d1c0D9d1c0C9d1c0D9d1c0C9d1c0D",
     "9d1c0C9d1c0D9d1c0C9d1c0Dkp0dc0C6h980D9q000C905g0D9d6w0C9d1c0D9d1c0C9d1c0D9d1c0C9d1c0D9d1c0C",
     "9q000D9d1c0C9d1c0D9d1c0C9d1c0D9d1c0C9d1c0D9d1c0C9d1c0D9d1c0C9d1c0D9d1c0C9q000D9cvs0C9d1c0D",
     "9d1c0C9d1c0D9d1c0C9d1c0D9d1c0C9cyk0D9d440C9cyk0D9q2s0Cast80D7xhs0C"],
    .seasonal ⟨"EET", 7200⟩ ⟨"EEST", 10800⟩ ⟨3, 5, 0, 10800⟩ ⟨10, 5, 0, 14400⟩⟩,
  ⟨"Europe/Budapest", [⟨"LMT", 4580⟩, ⟨"CEST", 7200⟩, ⟨"CET", 3600⟩],
    ["ou3hjwCdb0dz8B7ves0Ca4yw0B7x6o0Casw00B7x6o0Cauqo0B7vc00Cafxc0B8n400Caq1x00Bthcc0C7k800B",
     "9q000C9d1c0B9d1c0Cawd00B9eys0C7pxk0B9rrw0C9b9g0B9d1c0C9d1c0B9d1c0C9q000B902o0C2f4vs0B6u7w0C",
     "bw0c0B6uao0Cclpc0B64dc0Cclpc0B64dc0Cbr3bs0B902o0C9d1c0B9d1c0C9d1c0B9d1c0C9d1c0B9d1c0C9d6w0B",
     "9q000C9d1c0B9d1c0C9d1c0B9d1c0C9d1c0B9d1c0C9d1c0B9d1c0C9d1c0B9d1c0C9d1c0B9q000C9d1c0B9d1c0C",
     "9d1c0B9d1c0C9d1c0B9d1c0C9d1c0B9d1c0C9d1c0B9d1c0C9q000B"],
    .seasonal ⟨"CET", 3600⟩ ⟨"CEST", 7200⟩ ⟨3, 5, 0, 7200⟩ ⟨10, 5, 0, 10800⟩⟩,
  ⟨"Europe/Chisinau", [⟨"LMT", 6920⟩, ⟨"CMT", 6900⟩, ⟨"BMT", 6264⟩, ⟨"EEST", 10800⟩, ⟨"EET", 7200⟩,
      ⟨"CET", 3600⟩, ⟨"CEST", 7200⟩, ⟨"MSD", 14400⟩, ⟨"MSK", 10800⟩],
    ["j6jnqwBjw96okC70f1toEfj8m0D6w5c0E9d1c0D9d1c0E9q000D9d1c0E9d1c0D9d1c0E9d1c0D9d1c0E9d1c0D",
     "9d1c0E9d1c0D9d1c0E9d1c0D9d1c0Egeqo0Dha580Goc8g0F7k800G9q000F9d1c0G7cl00Ij3pbw0H9et80I9d440H",
     "9et80I9d440H9et80I9eys0H9d6w0I9d1c0H9d1c0I9d1c0H9d1c0I9d1c0H9d1c0I9d1c0H9d1c0I9d1c0H9d1c0I",
     "9d1c0H25p80D7kdk0E9d1c0D9d1c0E9cvs0D9cyk0E9d440D9cyk0E9d440D9cyk0E9d440D9cyk0E9q2s0Dast80E",
     "7xf00Dasw00E7x6o0Dasw00E7x6o0Db5uo0E7k800Db5uo0E7k800Db5uo0E7x6o0Dasw00E7x6o0Dasw00E7x6o0D",
     "b5uo0E7k800Db5uo0E7k800Db5uo0E7k800Db5uo0E7x6o0Dasw00E7x6o0Dasw00E7x6o0Db5uo0E7k800Db5uo0E",
     "7k800Db5uo0E7x6o0Dasw00E7x6o0Dasw00E7x6o0Dasw00E7x6o0Db5uo0E7k800Db5uo0E7k800Db5uo0E7x6o0D",
     "asw00E7x6o0Dasw00E7x6o0Db5uo0E7kas0D"],
    .seasonal ⟨"EET", 7200⟩ ⟨"EEST", 10800⟩ ⟨3, 5, 0, 10800⟩ ⟨10, 5, 0, 14400⟩⟩,
  ⟨"Europe/Dublin", [⟨"LMT", (-1521)⟩, ⟨"DMT", (-1521)⟩, ⟨"IST", 2079⟩, ⟨"BST", 3600⟩, ⟨"GMT", 0⟩,
      ⟨"IST", 3600⟩],
    ["jhk4xdBiol480C6uao0E9pytrD8c000E9o5c0D9ruo0E9b6o0D9ew00E9b6o0Dauqo0E88ao0D9ew00E8y800F",
     "a2yo0Ea2yo0F7k800Easw00F8a5c0Easw00F8n400Ea2yo0F8n400E9q000F902o0Eafxc0F8n400Ea2yo0F8n400E",
     "9q000F902o0Ea2yo0F8n400Ea2yo0F8n400E9q000F9d1c0Ea2yo0F8n400E9q000F902o0Ea2yo0F8n400Ea2yo0F",
     "8n400E9q000F902o0Ea2yo0Fb5uo0E51hc0F3g8800E8a5c0Fbvs00E8n400Fa2yo0E7x6o0Fasw00E8n400F9q000E",
     "902o0F9q000E9d1c0F9q000E902o0F8n400E9q000F902o0Ea2yo0F8n400Eafxc0F8n400E9q000F902o0Ea2yo0F",
     "8n400Ea2yo0F8n400E9q000F902o0E902o0Fb5uo0E7k800Fb5uo0E7x6o0Fasw00E7k800Fb5uo0E7k800Fb5uo0E",
     "7k800Fb5uo0E7k800Fbitc0E5reo0Fcyfo0F1kjf00E779c0Fbitc0E779c0Fbitc0E779c0Fbitc0E779c0Fbitc0E",
     "7k800Fb5uo0E7k800Fb5uo0E7k800Fbitc0E779c0Fbitc0E779c0Fbitc0E7x3w0Fasw00E7x6o0Fasw00E7x6o0F",
     "asw00E7x6o0Fb5uo0E7x6o0Fasw00E7x6o0Fasw00E7x6o0Fasw00E7x6o0Fasw00E7x6o0Fb5uo0E7k800Fb5uo0E",
     "7x6o0Fasw00E7x6o0Fasw00E7x6o0Fasw00E7x6o0Fasw00E7x6o0Fasw00E8a5c0F"],
    .seasonal ⟨"IST", 3600⟩ ⟨"GMT", 0⟩ ⟨10, 5, 0, 7200⟩ ⟨3, 5, 0, 3600⟩⟩,
  ⟨"Europe/Gibraltar", [⟨"LMT", (-1284)⟩, ⟨"BST", 3600⟩, ⟨"GMT", 0⟩, ⟨"BDST", 7200⟩, ⟨"CET", 3600⟩,
      ⟨"CEST", 7200⟩],
    ["jhk4qsCiol38cB6uao0C9q000B8c000C9o5c0B9ruo0C9b6o0B9ew00C9b6o0Bauqo0C88ao0B9ew00C8y800B",
     "a2yo0Ca2yo0B7k800Casw00B8a5c0Casw00B8n400Ca2yo0B8n400C9q000B902o0Cafxc0B8n400Ca2yo0B8n400C",
     "9q000B902o0Ca2yo0B8n400Ca2yo0B8n400C9q000B9d1c0Ca2yo0B8n400C9q000B902o0Ca2yo0B8n400Ca2yo0B",
     "8n400C9q000B902o0Ca2yo0Bb5uo0C51hc0Bmbmk0D51hc0Bc8qo0D6hc00Bc8qo0D6uao0Bbvs00D8n400Ba4tc0D",
     "5clc0B4bms0C9q000B902o0C8a5c0B1frw0D64dc0B4bms0C6uao0Bbvs00C7x6o0Basw00C8n400B9q000C902o0B",
     "9q000C9d1c0B9q000C902o0B8n400C9q000B902o0Ca2yo0B8n400Cafxc0B8n400C9q000Ed0tp80F9d1c0E9d1c0F",
     "9d1c0E9d1c0F9q000E9d1c0F9d1c0E9d1c0F9d1c0E9d1c0F9d1c0E9d1c0F9d1c0E9d1c0F9d1c0E9d1c0F9q000E",
     "9d1c0F9d1c0E9d1c0F9d1c0E9d1c0F9d1c0E9d1c0F9d1c0E9d1c0F9d1c0E9q000F"],
    .seasonal ⟨"CET", 3600⟩ ⟨"CEST", 7200⟩ ⟨3, 5, 0, 7200⟩ ⟨10, 5, 0, 10800⟩⟩,
  ⟨"Europe/Helsinki", [⟨"LMT", 5989⟩, ⟨"HMT", 5989⟩, ⟨"EEST", 10800⟩, ⟨"EET", 7200⟩],
    ["icplsrBmebs00Dax3tqdC9gqo0Dk31s80C9d1c0D9d1c0C9d1c0D9d440C9d1c0D9d1c0C9q000D9d1c0C9d1c0D",
     "9d1c0C9d1c0D9d1c0C9d1c0D9d1c0C9d1c0D9d1c0C9d1c0D9d1c0C9q000D9d1c0C9d1c0D9d1c0C9d1c0D9d1c0C",
     "9d1c0D9d1c0C9d1c0D9d1c0C9d1c0D9q000C"],
    .seasonal ⟨"EET", 7200⟩ ⟨"EEST", 10800⟩ ⟨3, 5, 0, 10800⟩ ⟨10, 5, 0, 14400⟩⟩,
  ⟨"Europe/Istanbul", [⟨"LMT", 6952⟩, ⟨"IMT", 7016⟩, ⟨"EEST", 10800⟩, ⟨"EET", 7200⟩, ⟨"+03", 10800⟩,
      ⟨"+04", 14400⟩],
    ["j6jnq0Bg1oam8D2wvx6wC7v980D1tjc40Caunw0D88dg0C9et80D8yas0Ca2vw0Dtzpg0C79180Dawo40C7v980D",
     "7p4040C4zjw0D2vs40Cf4d80D9vms0C1u5ek0Dc5440C69uk0Dacas0C8n180Da31g0C8n180D9q2s0C8zzw0D",
     "a31g0C8zzw0Da31g0C8n180D5md9g0Co9zw0Da6qs0C75bw0D4iwyw0C7x6o0D7kas0Cb5rw0D75hg0Cbkl80D",
     "77c40Cbiqk0D7x9g0Ca2vw0D8n6s0C4iqc0E2nkw80F38l80Ekdes0D8qtc0C8a5c0D9ew00C9d1c0D9d1c0C9d1c0D",
     "9d1c0C9d1c0D9d1c0C9d1c0D9d1c0C9q000D9d1c0C9d1c0D9d1c0C9d1c0D9d1c0C9d1c0D902o0C9q000D9d1c0C",
     "9d1c0D9q000Casw00D7x6o0Casw00D7x6o0Casw00D7x6o0Cb5uo0D7k800Cb5uo0D7k800Cb5uo0D7x6o0Casw00D",
     "7x6o0Casw00D7x6o0Cb5uo0D7k800Cb5uo0D7k800Cb5uo0D7kdk0Cb5uo0D7x6o0Casw00D7x6o0Casw00D7x6o0C",
     "b5uo0D7m2o0Cb4000D7k800Cb5uo0D7x6o0Casw00D7z1c0Car1c0D7x6o0Cbitc0D779c0C8fe80E"],
    .steady ⟨"+03", 10800⟩⟩,
  ⟨"Europe/Kaliningrad", [⟨"LMT", 4920⟩, ⟨"CEST", 7200⟩, ⟨"CET", 3600⟩, ⟨"EEST", 10800⟩,
      ⟨"EET", 7200⟩, ⟨"MSD", 14400⟩, ⟨"MSK", 10800⟩, ⟨"+03", 10800⟩],
    ["q3gtagCc1n28oB7ves0Ca4yw0B7x6o0Casw00B7x6o0Cb8qdc0B1cm000C7k800B9q000C9d1c0B9d1c0C9d1c0B",
     "el00Ez6o0D9kd80E82tg0Gi9avw0F9et80G9d440F9et80G9d440F9et80G9eys0F9d6w0G9d1c0F9d1c0G9d1c0F",
     "9d1c0G9d1c0F9d1c0G9d1c0F9d1c0G9d1c0D9d440E9d1c0D9q000E9d1c0D9d1c0E9d1c0D9d1c0E9d1c0D9d1c0E",
     "9d1c0D9d1c0E9d1c0D9d1c0E9q000Dasw00E7x6o0Dasw00E7x6o0Dasw00E7x6o0Db5uo0E7k800Db5uo0E7k800D",
     "b5uo0E7x6o0Dasw00E7x6o0Dasw00E7x6o0Db5uo0E7k800Db5uo0E7k800Db5uo0E7k800Db5uo0E7x6o0Dasw00E",
     "7x6o0Dasw00E7x6o0Db5uo0E7k800H1vbzw0E"],
    .steady ⟨"EET", 7200⟩⟩,
  ⟨"Europe/Kirov", [⟨"LMT", 11928⟩, ⟨"+03", 10800⟩, ⟨"+05", 18000⟩, ⟨"+04", 14400⟩, ⟨"MSD", 14400⟩,
      ⟨"MSK", 10800⟩, ⟨"MSK", 14400⟩],
    ["13skrr4B5q5zo0Dqi27w0C9et80D9d440C9et80D9d440C9et80D9eys0C9d6w0D9d1c0C9d1c0D9d1c0C9d1c0D",
     "9d1c0C9d1c0D9d1c0C9d1c0D9d1c0E9d440F9d1c0E9q000F9d1c0Dipzw0E9d440F9d1c0E9d1c0F9d1c0E9d1c0F",
     "9d1c0E9d1c0F9q000Easw00F7x6o0Easw00F7x6o0Easw00F7x6o0Eb5uo0F7k800Eb5uo0F7k800Eb5uo0F7x6o0E",
     "asw00F7x6o0Easw00F7x6o0Eb5uo0F7k800Eb5uo0F7k800Eb5uo0F7k800Eb5uo0F7x6o0Easw00F7x6o0Easw00F",
     "7x6o0Eb5uo0F7k800G1vbzw0F"],
    .steady ⟨"MSK", 10800⟩⟩,
  ⟨"Europe/Kyiv", [⟨"LMT", 7324⟩, ⟨"KMT", 7324⟩, ⟨"EET", 7200⟩, ⟨"MSK", 10800⟩, ⟨"CET", 3600⟩,
      ⟨"CEST", 7200⟩, ⟨"MSD", 14400⟩, ⟨"EEST", 10800⟩],
    ["j6jnfoBn4x6o0C37a03gD5vd6k0Fkzv40E7k800F9q000E1oyg0Djipzs0G9et80D9d440G9et80D9d440G9et80D",
     "9eys0G9d6w0D9d1c0G9d1c0D9d1c0G9d1c0D9d1c0G9d1c0D9d1c0G9d1c0D9d1c0G9d1c0D9d1c0G51ek0Hneqw0C",
     "9d1c0H9d1c0C9d1c0H9d1c0C9d1c0H9d1c0C9d1c0H9d1c0C9q000Hasys0C"],
    .seasonal ⟨"EET", 7200⟩ ⟨"EEST", 10800⟩ ⟨3, 5, 0, 10800⟩ ⟨10, 5, 0, 14400⟩⟩,
  ⟨"Europe/Lisbon", [⟨"LMT", (-2205)⟩, ⟨"WEST", 3600⟩, ⟨"WET", 0⟩, ⟨"WEMT", 7200⟩, ⟨"CET", 3600⟩,
      ⟨"CEST", 7200⟩],
    ["l9pesdAem0zmrC2bufw0B6zxg0C66800Bbq580C71s40Bbq580C71s40Bbq580C73ms0Bbq580C71s40Bbq580C",
     "1b2g00B8so00Cst1c0B8n400C9q000B902o0Ca2yo0B902o0Ca2yo0B8n400Cst1c0B8n400C9d1c0B9d1c0Csg2o0B",
     "9d1c0C902o0B9q000Ca2yo0B8n400C9d1c0B9d1c0C902o0B9q000Ca2yo0Bb5uo0C51hc0Bbmio0C99c00B9ew00C",
     "88ao0B25p80D5reo0B3lpg0C779c0B1sqk0D6uao0B38qs0C6uao0B25p80D6hc00B38qs0C6uao0B25p80D6hc00B",
     "38qs0C8a5c0B9d1c0C9d9o0B9d1c0C9d1c0B9d1c0C9d1c0B9d1c0C9d1c0B9d1c0C9d1c0B9q000C9d1c0B9d1c0C",
     "9d1c0B9d1c0C9d1c0B9d1c0C9d1c0B9d1c0C9d1c0B9q000C9d1c0B9d1c0C9d1c0B9d1c0C9d1c0B9d1c0C9d1c0B",
     "9d1c0C9d1c0B9d1c0C9d1c0B9q000C9d1c0B9d1c0C9d1c0B9d1c0C9d1c0B9d1c0C9d1c0B9d1c0E57ljs0C9d1c0B",
     "9d1c0C9q2s0B9d1c0C9d1c0B9d1c0C9q000B902o0C9cyk0B9d1c0C9d1c0B9d1c0C9d1c0B9d1c0C9d1c0B9q000C",
     "9d1c0B9d1c0C9d440B9d1c0C9d1c0B9d1c0C9d1c0B9d1c0C9d1c0B9d1c0C9d1c0B9q000C9d1c0B9d1c0C9d1c0B",
     "9d1c0E9d1c0F9d1c0E9d1c0F9d1c0E9d1c0F9d1c0E9q000B"],
    .seasonal ⟨"WET", 0⟩ ⟨"WEST", 3600⟩ ⟨3, 5, 0, 3600⟩ ⟨10, 5, 0, 7200⟩⟩,
  ⟨"Europe/London", [⟨"LMT", (-75)⟩, ⟨"BST", 3600⟩, ⟨"GMT", 0⟩, ⟨"BDST", 7200⟩],
    ["2fpyh7Czqf9hxB6uao0C9q000B8c000C9o5c0B9ruo0C9b6o0B9ew00C9b6o0Bauqo0C88ao0B9ew00C8y800B",
     "a2yo0Ca2yo0B7k800Casw00B8a5c0Casw00B8n400Ca2yo0B8n400C9q000B902o0Cafxc0B8n400Ca2yo0B8n400C",
     "9q000B902o0Ca2yo0B8n400Ca2yo0B8n400C9q000B9d1c0Ca2yo0B8n400C9q000B902o0Ca2yo0B8n400Ca2yo0B",
     "8n400C9q000B902o0Ca2yo0Bb5uo0C51hc0Bmbmk0D51hc0Bc8qo0D6hc00Bc8qo0D6uao0Bbvs00D8n400Ba4tc0D",
     "5clc0B4bms0C9q000B902o0C8a5c0B1frw0D64dc0B4bms0C6uao0Bbvs00C7x6o0Basw00C8n400B9q000C902o0B",
     "9q000C9d1c0B9q000C902o0B8n400C9q000B902o0Ca2yo0B8n400Cafxc0B8n400C9q000B902o0Ca2yo0B8n400C",
     "a2yo0B8n400C9q000B902o0C902o0Bb5uo0C7k800Bb5uo0C7x6o0Basw00C7k800Bb5uo0C7k800Bb5uo0C7k800B",
     "b5uo0C7k800Bbitc0C5reo0Bcyfo0B1kjf00C779c0Bbitc0C779c0Bbitc0C779c0Bbitc0C779c0Bbitc0C7k800B",
     "b5uo0C7k800Bb5uo0C7k800Bbitc0C779c0Bbitc0C779c0Bbitc0C7x3w0Basw00C7x6o0Basw00C7x6o0Basw00C",
     "7x6o0Bb5uo0C7x6o0Basw00C7x6o0Basw00C7x6o0Basw00C7x6o0Basw00C7x6o0Bb5uo0C7k800Bb5uo0C7x6o0B",
     "asw00C7x6o0Basw00C7x6o0Basw00C7x6o0Basw00C7x6o0Basw00C8a5c0B"],
    .seasonal ⟨"GMT", 0⟩ ⟨"BST", 3600⟩ ⟨3, 5, 0, 3600⟩ ⟨10, 5, 0, 7200⟩⟩,
  ⟨"Europe/Madrid", [⟨"LMT", (-884)⟩, ⟨"WEST", 3600⟩, ⟨"WET", 0⟩, ⟨"WEMT", 7200⟩, ⟨"CEST", 7200⟩,
      ⟨"CET", 3600⟩],
    ["u53if4C90sik0B8yas0C9cyk0B9eys0C2d2vw0B8sqs0Cssyk0B8n6s0C9px80B905g0Ca2yo0B902o0Ca2vw0B",
     "8n6s0C40lh80B5k2s0C9cyk0B1frw0D7z1c0Bj1c80C8a2k0F13yt80E685g0Fbrzw0E8n6s0Fa2vw0E8n6s0F",
     "a2vw0E8n6s0Fa2vw0E8n6s0F1clx80E7x9g0Fcswik0E905g0F9px80E905g0F8zzw0E9d440F9px80E905g0F",
     "9q5k0E9d1c0F9d1c0E9d1c0F9q000E902o0F9d1c0E9d1c0F9d1c0E9d1c0F9d1c0E9d1c0F9d1c0E9q000F9d1c0E",
     "9d1c0F9d1c0E9d1c0F9d1c0E9d1c0F9d1c0E9d1c0F9d1c0E9d1c0F9d1c0E9q000F9d1c0E9d1c0F9d1c0E9d1c0F",
     "9d1c0E9d1c0F9d1c0E9d1c0F9d1c0E9d1c0F9q000E"],
    .seasonal ⟨"CET", 3600⟩ ⟨"CEST", 7200⟩ ⟨3, 5, 0, 7200⟩ ⟨10, 5, 0, 10800⟩⟩,
  ⟨"Europe/Malta", [⟨"LMT", 3484⟩, ⟨"CEST", 7200⟩, ⟨"CET", 3600⟩],
    ["qeizqcCbsbx8sB64ak0C9d440B9et80C88dg0Baunw0C7ig40Bb5rw0C8n6s0B9cyk0Caau2s0B18r9k0C7k800B",
     "9q000C9b6o0B8n400Ca4tc0B8j940C9f1k0Bafxc0C89zs0Bafxc0C7kdk0Bb5uo0C979rs0B6h980Ccls40B64dc0C",
     "clpc0B64dc0Ccyo00B64dc0Cclpc0B64dc0Cc8qo0B6hc00Cclpc0B6hc00C9b6o0B9d1c0Cahs00B7m2o0Cb45k0B",
     "7x3w0Casys0B7x3w0Casys0B7x3w0Casys0B7x3w0Casys0B7x3w0Ca4w40B8y580C9q2s0B9d1c0C9d1c0B9d1c0C",
     "9d1c0B9d1c0C9d1c0B9q000C9d1c0B9d1c0C9d1c0B9d1c0C9d1c0B9d1c0C9d1c0B9d1c0C9d1c0B9d1c0C9d1c0B",
     "9q000C9d1c0B9d1c0C9d1c0B9d1c0C9d1c0B9d1c0C9d1c0B9d1c0C9d1c0B9d1c0C9q000B"],
    .seasonal ⟨"CET", 3600⟩ ⟨"CEST", 7200⟩ ⟨3, 5, 0, 7200⟩ ⟨10, 5, 0, 10800⟩⟩,
  ⟨"Europe/Minsk", [⟨"LMT", 6616⟩, ⟨"MMT", 6600⟩, ⟨"EET", 7200⟩, ⟨"MSK", 10800⟩, ⟨"CET", 3600⟩,
      ⟨"CEST", 7200⟩, ⟨"MSD", 14400⟩, ⟨"EEST", 10800⟩, ⟨"+03", 10800⟩],
    ["j6jnzcBn4x6ogC379zjcD5r1mk0Fpbf40E7k800F9q000E9d1c0F4oac0Dj6dmk0G9et80D9d440G9et80D9d440G",
     "9et80D9eys0G9d6w0D9d1c0G9d1c0D9d1c0G9d1c0D9d1c0G9d1c0D9d1c0G9d1c0D9d1c0G9d1c0Dsg2o0H9d440C",
     "9d1c0H9d1c0C9d1c0H9d1c0C9d1c0H9d1c0C9d1c0H9d1c0C9q000Hasw00C7x6o0Hasw00C7x6o0Hasw00C7x6o0H",
     "b5uo0C7k800Hb5uo0C7k800Hb5uo0C7x6o0Hasw00C7x6o0Hasw00C7x6o0Hb5uo0C7k800Hb5uo0C7k800Hb5uo0C",
     "7k800Hb5uo0C7x6o0Hasw00C7x6o0Hasw00C7x6o0Hb5uo0C7k800I"],
    .steady ⟨"+03", 10800⟩⟩,
  ⟨"Europe/Moscow", [⟨"LMT", 9017⟩, ⟨"MMT", 9017⟩, ⟨"MST", 12679⟩, ⟨"MMT", 9079⟩, ⟨"MDST", 16279⟩,
      ⟨"MSD", 14400⟩, ⟨"MSK", 10800⟩, ⟨"+05", 18000⟩, ⟨"EET", 7200⟩, ⟨"EEST", 10800⟩,
      ⟨"MSK", 14400⟩],
    ["j6jm4nBj1sw00DipzuaC97hc0D7yyk0E5i840Cd9p80E1jwk7F2cvk0Gs8o00F1qvw0H8fpc0F1jms0Gis040I",
     "412as0Gqi27w0F9et80G9d440F9et80G9d440F9et80G9eys0F9d6w0G9d1c0F9d1c0G9d1c0F9d1c0G9d1c0F",
     "9d1c0G9d1c0F9d1c0G9d1c0F9d1c0G9d1c0F9q000G9d1c0J9d440I5reo0G3ljw0F9d1c0G9d1c0F9d1c0G9d1c0F",
     "9d1c0G9d1c0F9d1c0G9q000Fasw00G7x6o0Fasw00G7x6o0Fasw00G7x6o0Fb5uo0G7k800Fb5uo0G7k800Fb5uo0G",
     "7x6o0Fasw00G7x6o0Fasw00G7x6o0Fb5uo0G7k800Fb5uo0G7k800Fb5uo0G7k800Fb5uo0G7x6o0Fasw00G7x6o0F",
     "asw00G7x6o0Fb5uo0G7k800K1vbzw0G"],
    .steady ⟨"MSK", 10800⟩⟩,
  ⟨"Europe/Paris", [⟨"LMT", 561⟩, ⟨"PMT", 561⟩, ⟨"WEST", 3600⟩, ⟨"WET", 0⟩, ⟨"CET", 3600⟩,
      ⟨"CEST", 7200⟩, ⟨"WEMT", 7200⟩],
    ["p11knjBafgo00D2qx1nlC5luo0D8y800Ca4tc0D7vc00Cauqo0D7idc0Cb7pc0D6sg00Ccyo00D7ayo0Cbko00D",
     "7rmo0Ca2yo0Dbvs00C6uao0D902o0C9q000D9d1c0C9d1c0Da2yo0C8n400D9q000C902o0Da2yo0C902o0Da2yo0C",
     "8n400D9q000C902o0Da2yo0C8n400D9d1c0C9d1c0D902o0Ca2yo0D9d1c0C9d1c0D902o0C9q000Da2yo0C8n400D",
     "9d1c0C9d1c0D902o0C9q000Da2yo0Cb5uo0D51po0C5p8w0F18rcc0E7k800F9q000E9d1c0F7efo0G29k40C922w0G",
     "8l9c0Efxlx80F9cyk0E9q5k0F902o0E9q000F9d1c0E9d1c0F9d1c0E9q000F902o0E9d1c0F9d1c0E9d1c0F9d1c0E",
     "9d1c0F9d1c0E9d1c0F9q000E9d1c0F9d1c0E9d1c0F9d1c0E9d1c0F9d1c0E9d1c0F9d1c0E9d1c0F9d1c0E9d1c0F",
     "9q000E9d1c0F9d1c0E9d1c0F9d1c0E9d1c0F9d1c0E9d1c0F9d1c0E9d1c0F9d1c0E9q000F"],
    .seasonal ⟨"CET", 3600⟩ ⟨"CEST", 7200⟩ ⟨3, 5, 0, 7200⟩ ⟨10, 5, 0, 10800⟩⟩,
  ⟨"Europe/Prague", [⟨"LMT", 3464⟩, ⟨"PMT", 3464⟩, ⟨"CEST", 7200⟩, ⟨"CET", 3600⟩, ⟨"GMT", 0⟩],
    ["3iwzqwBlsd1c0Dcttug8C7ves0Da4yw0C7x6o0Dasw00C7x6o0Db8qdc0C1cm000D7k800C9q000D9d1c0C9d1c0D",
     "9d1c0C9d1c0Db5uo0C7vc00D2vs40E4bk00D2vmk0C8n400Da2yo0C8n400D9o5c0C91xc0Dfe6000C9d1c0D9q000C",
     "902o0D9d1c0C9d1c0D9d1c0C9d1c0D9d1c0C9d1c0D9d1c0C9q000D9d1c0C9d1c0D9d1c0C9d1c0D9d1c0C9d1c0D",
     "9d1c0C9d1c0D9d1c0C9d1c0D9d1c0C9q000D9d1c0C9d1c0D9d1c0C9d1c0D9d1c0C9d1c0D9d1c0C9d1c0D9d1c0C",
     "9d1c0D9q000C"],
    .seasonal ⟨"CET", 3600⟩ ⟨"CEST", 7200⟩ ⟨3, 5, 0, 7200⟩ ⟨10, 5, 0, 10800⟩⟩,
  ⟨"Europe/Riga", [⟨"LMT", 5794⟩, ⟨"RMT", 5794⟩, ⟨"LST", 9394⟩, ⟨"EET", 7200⟩, ⟨"MSK", 10800⟩,
      ⟨"CET", 3600⟩, ⟨"CEST", 7200⟩, ⟨"MSD", 14400⟩, ⟨"EEST", 10800⟩],
    ["j6jom6Bjzalk0C7x6o0Ba4tc0C2mg00B3myns0D7fhlkyEgz180Gp5v40F7k800G9q000F9d1c0G9d1c0Fk7s0E",
     "j14ns0H9et80E9d440H9et80E9d440H9et80E9eys0H9d6w0E9d1c0H9d1c0E9d1c0H9d1c0E9d1c0H9d1c0E9d1c0H",
     "9d1c0E9d1c0I9d440D9d1c0I9q000D9d1c0I9d1c0D9d1c0I9d1c0D9d1c0I9d1c0D9d1c0I9d1c0D9d1c0I9d1c0D",
     "9q000I9d1c0D9d440Iasw00D7x6o0Iasw00D7x6o0Ib5uo0Dqaao0I"],
    .seasonal ⟨"EET", 7200⟩ ⟨"EEST", 10800⟩ ⟨3, 5, 0, 10800⟩ ⟨10, 5, 0, 14400⟩⟩,
  ⟨"Europe/Rome", [⟨"LMT", 2996⟩, ⟨"RMT", 2996⟩, ⟨"CEST", 7200⟩, ⟨"CET", 3600⟩],
    ["cda43wBe170v8Dbsds00C64ak0D9d440C9et80D88dg0Caunw0D7ig40Cb5rw0D8n6s0C9cyk0Daau2s0C18r9k0D",
     "7k800C9q000D9d1c0C8l9c0Da4tc0C8j940D9f1k0Cafxc0D89zs0Cafxc0D7kdk0Cb5uo0D979rs0C6h980Dcls40C",
     "64dc0Dclpc0C64dc0Dcyo00C64dc0Dclpc0C64dc0Dc8qo0C6hc00Dclpc0C6hc00Dclpc0C64dc0Dc8qo0C6hc00D",
     "clpc0C64dc0Dclpc0C64dc0Dc8qo0C6hc00Dclpc0C6hc00Dc8qo0C6hc00D9q5k0C902o0D9d1c0C9d1c0D9d1c0C",
     "9d1c0D9d1c0C9d1c0D9d1c0C9q000D9d1c0C9d1c0D9d1c0C9d1c0D9d1c0C9d1c0D9d1c0C9d1c0D9d1c0C9d1c0D",
     "9d1c0C9q000D9d1c0C9d1c0D9d1c0C9d1c0D9d1c0C9d1c0D9d1c0C9d1c0D9d1c0C9d1c0D9q000C"],
    .seasonal ⟨"CET", 3600⟩ ⟨"CEST", 7200⟩ ⟨3, 5, 0, 7200⟩ ⟨10, 5, 0, 10800⟩⟩,
  ⟨"Europe/Samara", [⟨"LMT", 12020⟩, ⟨"+03", 10800⟩, ⟨"+04", 14400⟩, ⟨"+05", 18000⟩],
    ["13skrr4B5q5zo0Cqi27w0D9et80C9d440D9et80C9d440D9et80C9eys0D9d6w0C9d1c0D9d1c0C9d1c0D9d1c0C",
     "9d1c0D9d1c0C9d1c0D9d1c0C9d1c0C9d440B9d1c0C9q000B9d1c0B9d440B12w00C89zs0D9d1c0C9d1c0D9d1c0C",
     "9d1c0D9d1c0C9d1c0D9d1c0C9q000Dasw00C7x6o0Dasw00C7x6o0Dasw00C7x6o0Db5uo0C7k800Db5uo0C7k800D",
     "b5uo0C7x6o0Dasw00C7x6o0Dasw00C7x6o0Db5uo0C7k800Db5uo0C7k800Db5uo0C7k800Db5uo0C7x6o0Dasw00C",
     "7x6o0Dasw00C7x6o0Cb5xg0B7k800C"],
    .steady ⟨"+04", 14400⟩⟩,
  ⟨"Europe/Saratov", [⟨"LMT", 11058⟩, ⟨"+03", 10800⟩, ⟨"+05", 18000⟩, ⟨"+04", 14400⟩],
    ["13skrr4B5q5zo0Dqi27w0C9et80D9d440C9et80D9d440C9et80D9eys0C9d6w0D9d1c0C9d1c0D9d1c0C9d1c0D",
     "9d1c0C9d1c0D9d1c0D9d440B9d1c0D9d1c0B9d1c0D9q000B9d1c0Dipzw0D9d440B9d1c0D9d1c0B9d1c0D9d1c0B",
     "9d1c0D9d1c0B9q000Dasw00B7x6o0Dasw00B7x6o0Dasw00B7x6o0Db5uo0B7k800Db5uo0B7k800Db5uo0B7x6o0D",
     "asw00B7x6o0Dasw00B7x6o0Db5uo0B7k800Db5uo0B7k800Db5uo0B7k800Db5uo0B7x6o0Dasw00B7x6o0Dasw00B",
     "7x6o0Db5uo0B7k800D1vbzw0B13m040D"],
    .steady ⟨"+04", 14400⟩⟩,
  ⟨"Europe/Simferopol", [⟨"LMT", 8184⟩, ⟨"SMT", 8160⟩, ⟨"EET", 7200⟩, ⟨"MSK", 10800⟩, ⟨"CET", 3600⟩,
      ⟨"CEST", 7200⟩, ⟨"MSD", 14400⟩, ⟨"EEST", 10800⟩, ⟨"MSK", 14400⟩],
    ["j6jmrsBn4x6ooC37a0qoD5xiyk0Fiu340E7k800F9q000E9d1c0Fiac0Djajmk0G9et80D9d440G9et80D9d440G",
     "9et80D9eys0G9d6w0D9d1c0G9d1c0D9d1c0G9d1c0D9d1c0G9d1c0D9d1c0G9d1c0D9d1c0G9d1c0Deeio0Cwrpg0H",
     "9d1c0C9d1c0H9d1c0C9d1c0H1sl00G7kdk0D9d1c0G9d1c0D9pug0Gat4c0D7x9g0Hasw00C7x6o0Hasw00C7x6o0H",
     "b5uo0C7k800Hb5uo0C7k800Hb5uo0C7x6o0Hasw00C7x6o0Hasw00C7x6o0Hb5uo0C7k800Hb5uo0C7k800Hb5uo0C",
     "7k800Hb5uo0C7x6o0Hasw00C7x6o0Hasw00C7x6o0Hb5uo0C7k800Hb5uo0C7k800Hb5uo0C7x6o0Hasw00C7x3w0I",
     "asqg0D"],
    .steady ⟨"MSK", 10800⟩⟩,
  ⟨"Europe/Sofia", [⟨"LMT", 5596⟩, ⟨"IMT", 7016⟩, ⟨"EET", 7200⟩, ⟨"CET", 3600⟩, ⟨"CEST", 7200⟩,
      ⟨"EEST", 10800⟩],
    ["j6joroB7s708kCp0d6uwD7k800E9q000D9d1c0E9d1c0D9d440Chqq240F9eys0C9o2k0F92040C9o2k0F90880C",
     "9pug0F90b00C9d1c0F9d1c0C9d1c0F9q000C9d1c0F9d1c0C9d1c0F9d1c0C9d1c0F9d1c0C9d1c0F9d1c0C9d1c0F",
     "9d1c0C9d1c0F9q000C9cvs0F9cyk0C9d440F9cyk0C9d440F9cyk0C9d440F9cyk0C9d440F9cyk0C9q2s0Fast80C",
     "7xhs0F"],
    .seasonal ⟨"EET", 7200⟩ ⟨"EEST", 10800⟩ ⟨3, 5, 0, 10800⟩ ⟨10, 5, 0, 14400⟩⟩,
  ⟨"Europe/Tallinn", [⟨"LMT", 5940⟩, ⟨"TMT", 5940⟩, ⟨"CEST", 7200⟩, ⟨"CET", 3600⟩, ⟨"EET", 7200⟩,
      ⟨"MSK", 10800⟩, ⟨"MSD", 14400⟩, ⟨"EEST", 10800⟩],
    ["j6joi4Bjvj9c0D3re10C7x6o0Det6g0Bygov0Ea1zgd0Fktx80Cl94g0D7k800C9q000D9d1c0C8uac0Fj27mk0G",
     "9et80F9d440G9et80F9d440G9et80F9eys0G9d6w0F9d1c0G9d1c0F9d1c0G9d1c0F9d1c0G9d1c0F9d1c0G9d1c0F",
     "9d1c0H9d440E9d1c0H9q000E9d1c0H9d1c0E9d1c0H9d1c0E9d1c0H9d1c0E9d1c0H9d1c0E9d1c0H9d1c0E9q000H",
     "asw00E7x6o0Hasw00E7x6o0Hasys0E7x6o0Hb5uo0E19dc00H"],
    .seasonal ⟨"EET", 7200⟩ ⟨"EEST", 10800⟩ ⟨3, 5, 0, 10800⟩ ⟨10, 5, 0, 14400⟩⟩,
  ⟨"Europe/Tirane", [⟨"LMT", 4760⟩, ⟨"CET", 3600⟩, ⟨"CEST", 7200⟩],
    ["10xc02wBdt2gw8C18pew0B7k800Cm800Bg7ot40C7rjw0Bautg0C7x3w0Bayis0C7x3w0Bb5xg0C7k580Bb42s0C",
     "7lzw0Bb42s0C7lzw0Bb42s0C7x3w0Bahus0C7x3w0Bb5xg0C7x3w0Ba4w40C8jbw0B9eys0C9d6w0B9d1c0C9d1c0B",
     "9d1c0C9d1c0B9d1c0C9d1c0B9d1c0C9d1c0B9d1c0C9d1c0B9d1c0C9q000B9d1c0C9d1c0B9d1c0C9d1c0B9d1c0C",
     "9d1c0B9d1c0C9d1c0B9d1c0C9d1c0B9q000C"],
    .seasonal ⟨"CET", 3600⟩ ⟨"CEST", 7200⟩ ⟨3, 5, 0, 7200⟩ ⟨10, 5, 0, 10800⟩⟩,
  ⟨"Europe/Ulyanovsk", [⟨"LMT", 11616⟩, ⟨"+03", 10800⟩, ⟨"+05", 18000⟩, ⟨"+04", 14400⟩,
      ⟨"+02", 7200⟩],
    ["13skrr4B5q5zo0Dqi27w0C9et80D9d440C9et80D9d440C9et80D9eys0C9d6w0D9d1c0C9d1c0D9d1c0C9d1c0D",
     "9d1c0C9d1c0D9d1c0C9d1c0D9d1c0D9d440B9d1c0D9q000B9d1c0B9d440E5reo0B3ljw0D9d1c0B9d1c0D9d1c0B",
     "9d1c0D9d1c0B9d1c0D9d1c0B9q000Dasw00B7x6o0Dasw00B7x6o0Dasw00B7x6o0Db5uo0B7k800Db5uo0B7k800D",
     "b5uo0B7x6o0Dasw00B7x6o0Dasw00B7x6o0Db5uo0B7k800Db5uo0B7k800Db5uo0B7k800Db5uo0B7x6o0Dasw00B",
     "7x6o0Dasw00B7x6o0Db5uo0B7k800D1vbzw0Bqnc40D"],
    .steady ⟨"+04", 14400⟩⟩,
  ⟨"Europe/Vienna", [⟨"LMT", 3921⟩, ⟨"CEST", 7200⟩, ⟨"CET", 3600⟩],
    ["q3gu27Cc1n1gxB7ves0Ca4yw0B7x6o0Casw00B7x6o0Ct6000B8a5c0Ca7a800B1cm000C7k800B9q000C9d1c0B",
     "9d1c0C9d1c0Biio0Civmo0B91xc0C9b6o0B9d1c0Ca2yo0B8n400Cgfyyg0B8zzw0C9d9o0B9d1c0C9d1c0B9d1c0C",
     "9d1c0B9d1c0C9d1c0B9q000C9d1c0B9d1c0C9d1c0B9d1c0C9d1c0B9d1c0C9d1c0B9d1c0C9d1c0B9d1c0C9d1c0B",
     "9q000C9d1c0B9d1c0C9d1c0B9d1c0C9d1c0B9d1c0C9d1c0B9d1c0C9d1c0B9d1c0C9q000B"],
    .seasonal ⟨"CET", 3600⟩ ⟨"CEST", 7200⟩ ⟨3, 5, 0, 7200⟩ ⟨10, 5, 0, 10800⟩⟩,
  ⟨"Europe/Vilnius", [⟨"LMT", 6076⟩, ⟨"WMT", 5040⟩, ⟨"KMT", 5736⟩, ⟨"CET", 3600⟩, ⟨"EET", 7200⟩,
      ⟨"MSK", 10800⟩, ⟨"CEST", 7200⟩, ⟨"MSD", 14400⟩, ⟨"EEST", 10800⟩],
    ["j6joecBjb5y4sC1g224oDe75ncE4kqk0Dacbs40Fgpp40Gpits0D7k800G9q000D9d1c0G65zo0Fj4vx80H9et80F",
     "9d440H9et80F9d440H9et80F9eys0H9d6w0F9d1c0H9d1c0F9d1c0H9d1c0F9d1c0H9d1c0F9d1c0H9d1c0F9d1c0I",
     "9d440E9d1c0I9q000E9d1c0I9d1c0E9d1c0I9d1c0E9d1c0I9d1c0E9d1c0I9d1c0E9d1c0I9d1c0E9q000Iasw00E",
     "7x6o0Iasw00E7x9g0Gasw00D7x6o0Gb5uo0E1s3eo0I"],
    .seasonal ⟨"EET", 7200⟩ ⟨"EEST", 10800⟩ ⟨3, 5, 0, 10800⟩ ⟨10, 5, 0, 14400⟩⟩,
  ⟨"Europe/Volgograd", [⟨"LMT", 10660⟩, ⟨"+03", 10800⟩, ⟨"+04", 14400⟩, ⟨"+05", 18000⟩,
      ⟨"MSD", 14400⟩, ⟨"MSK", 10800⟩, ⟨"MSK", 14400⟩],
    ["1424zj0B5glrw4Cqi27w0D9et80C9d440D9et80C9d440D9et80C9eys0D9d6w0C9d1c0D9d1c0C9d1c0D9d1c0C",
     "9d1c0D9d1c0C9d1c0E9d440F9d1c0E9d1c0F9d1c0E9q000F9d1c0Cipzw0E9d440F9d1c0E9d1c0F9d1c0E9d1c0F",
     "9d1c0E9d1c0F9q000Easw00F7x6o0Easw00F7x6o0Easw00F7x6o0Eb5uo0F7k800Eb5uo0F7k800Eb5uo0F7x6o0E",
     "asw00F7x6o0Easw00F7x6o0Eb5uo0F7k800Eb5uo0F7k800Eb5uo0F7k800Eb5uo0F7x6o0Easw00F7x6o0Easw00F",
     "7x6o0Eb5uo0F7k800G1vbzw0F239c40C14oqk0F"],
    .steady ⟨"MSK", 10800⟩⟩,
  ⟨"Europe/Warsaw", [⟨"LMT", 5040⟩, ⟨"WMT", 5040⟩, ⟨"CEST", 7200⟩, ⟨"CET", 3600⟩, ⟨"EEST", 10800⟩,
      ⟨"EET", 7200⟩],
    ["j6jp74Biko800Ddvyc0C7ves0Da4yw0C7x6o0Dasw00C7x6o0Faunw0E7x6o0F1evbs0D9fcwc0C18cao0D7k800C",
     "9q000D9d1c0C9gnw0Dan980C9kd80D8fs40C922w0Dar1c0C7x6o0Da2yo0C8n400D9q000C902o0D4013w0C64dc0D",
     "9d1c0C9d1c0Dclpc0C6hc00D9d1c0C9d1c0Dc8qo0C6hc00Dc8qo0C6hc00Dc8qo0C6hc00Dclpc0C64dc0D6j4tc0C",
     "902o0D9q000C9d1c0D9d1c0C9d1c0D9q000C902o0D9d1c0C9d1c0D9d1c0C9d1c0D9d1c0C9d1c0D9d1c0C9q000D",
     "9d1c0C9d1c0D9d1c0C9d1c0D9d1c0C9d1c0D9d440C9d1c0D9d1c0C9d1c0D9d1c0C9q000D9d1c0C9d1c0D9d1c0C",
     "9d1c0D9d1c0C9d1c0D9d1c0C9d1c0D9d1c0C9d1c0D9q000C"],
    .seasonal ⟨"CET", 3600⟩ ⟨"CEST", 7200⟩ ⟨3, 5, 0, 7200⟩ ⟨10, 5, 0, 10800⟩⟩,
  ⟨"Europe/Zurich", [⟨"LMT", 2048⟩, ⟨"BMT", 1786⟩, ⟨"CEST", 7200⟩, ⟨"CET", 3600⟩],
    ["5ddm68Blc05jaDohmxdmC7x6o0Dasw00C7x6o0Dk2zus0C9d1c0D9d1c0C9d1c0D9d1c0C9d1c0D9d1c0C9q000D",
     "9d1c0C9d1c0D9d1c0C9d1c0D9d1c0C9d1c0D9d1c0C9d1c0D9d1c0C9d1c0D9d1c0C9q000D9d1c0C9d1c0D9d1c0C",
     "9d1c0D9d1c0C9d1c0D9d1c0C9d1c0D9d1c0C9d1c0D9q000C"],
    .seasonal ⟨"CET", 3600⟩ ⟨"CEST", 7200⟩ ⟨3, 5, 0, 7200⟩ ⟨10, 5, 0, 10800⟩⟩]

end Worksheet.Zones
