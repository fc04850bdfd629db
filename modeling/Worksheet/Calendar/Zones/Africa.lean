import Worksheet.Calendar.ZoneEntry

/-!
# Zones: Africa

One entry for each zone of the time zone database, in the order of their names.
-/

namespace Worksheet.Zones

def africa : List ZoneEntry := [
  ⟨"Africa/Abidjan", [⟨"LMT", (-968)⟩, ⟨"GMT", 0⟩],
    ["zvqf60B"],
    .steady ⟨"GMT", 0⟩⟩,
  ⟨"Africa/Algiers", [⟨"LMT", 732⟩, ⟨"PMT", 561⟩, ⟨"WEST", 3600⟩, ⟨"WET", 0⟩, ⟨"CEST", 7200⟩,
      ⟨"CET", 3600⟩],
    ["p11kisBafgo4rD2qx1nlC5luo0D8y800Ca4tc0D7vc00Cauqo0D7idc0Cb7pc0D6sg00Ccyo00D7ayo0C53c00D",
     "9idxc0C3i040D51mw0F253uk0E9o2k0F92040E8l3s0Fjutc0D4uy840F3rdzw0D46xc00C7x6o0D2xco40C8n180F",
     "7x9g0E9d440Fkiqg0D9d440C9q2s0D9cyk0F"],
    .steady ⟨"CET", 3600⟩⟩,
  ⟨"Africa/Bissau", [⟨"LMT", (-3740)⟩, ⟨"-01", (-3600)⟩, ⟨"GMT", 0⟩],
    ["zvqh74Bwvoyo0C"],
    .steady ⟨"GMT", 0⟩⟩,
  ⟨"Africa/Cairo", [⟨"LMT", 7509⟩, ⟨"EEST", 10800⟩, ⟨"EET", 7200⟩],
    ["u0czajCkrj48lB40d80Ca31g0B7x3w0Ca4w40Baqyk0C80ys0Bb07w0C7tk40Bb07w0C8jhg0Ba8fw0C60go40B",
     "7el80Cawo40B7v980Cawqw0B7tk40Cb07w0B7tk40Cayd80B7tk40Cayd80B7tk40Cayd80B7tk40Cb07w0B7tk40C",
     "ayd80B7tk40Cayd80B7ves0Cawik0B7ves0Cayd80B7ves0Cawik0B7ves0Cawik0B7ves0Cawik0B7ves0Cayd80B",
     "7ves0Cawik0B7ves0Cawik0B7ves0Cawik0B7ves0Cayd80B7ves0Cawik0B7ves0Cawik0B7ves0Cawik0B7ves0C",
     "ayd80B7ves0Cawik0B7ves0Cf9x80B3i040Celuk0B462s0Cayd80B7ves0Cawik0B7ves0Cawik0B7ves0Cawik0B",
     "7ves0Cayd80B7ves0Cb5rw0B7m5g0Cawik0B7ves0Cawik0B7ves0Cayd80B7ves0Cawik0B7ves0Cawik0B7ves0C",
     "aqvs0B7x3w0Casys0B7x3w0Casys0B7x3w0Casys0B7x3w0Cb5xg0B7x3w0Casys0B7x3w0Casys0B7x3w0Casys0B",
     "7x3w0Casys0B7x3w0Cb5xg0B7x3w0Casys0B7x3w0Casys0B7k580Cb5xg0B6u7w0Cbvus0B6h980Cc8tg0B64ak0C",
     "cyqs0B5anw0C1jms0B12t80C1w22s0B25p80C1sw40B2vmk0C4hbhg0B"],
    .seasonal ⟨"EET", 7200⟩ ⟨"EEST", 10800⟩ ⟨4, 5, 5, 0⟩ ⟨10, 5, 4, 86400⟩⟩,
  ⟨"Africa/Casablanca", [⟨"LMT", (-1820)⟩, ⟨"+01", 3600⟩, ⟨"+00", 0⟩],
    ["10tw2hoCdi7nxgB3huk0C51k40B2znuk0C2dp9g0B776k0C8nt2s0B657w0C3ifxg0B3jp80Cva040B4qak0Ce1ms0B",
     "7pp80Ccnms0B3afw0C2xi840Bxqqk0Cbp56s0B4qak0Ce1ms0B45x80Cd2g40B51ek0Cc8tg0B64ak0Ce1sc0B",
     "47uo0C1leo0B23xc0Casw00B3lmo0C1qyo0B40g00C7x6o0B4mo00C1stc0B4deo0C7x6o0B3ylc0C1stc0B51hc0C",
     "7x6o0B3lmo0C1stc0B5reo0C7k800B2vpc0C25s00B64dc0C7k800B2iqo0C1stc0Bgkao0C1stc0Bg7c00C25s00B",
     "g7c00C1stc0Bg7c00C25s00Bg7c00C1stc0Bgkao0C1stc0Bg7c00C25s00Bg7c00C1stc0Bgkao0C1stc0Bg7c00C",
     "25s00Bg7c00C1stc0Bg7c00C25s00Bg7c00C1stc0Bgkao0C1stc0Bg7c00C25s00Bg7c00C1stc0Bg7c00C25s00B",
     "g7c00C25s00Bg7c00C1stc0Bg7c00C25s00Bg7c00C1stc0Bgkao0C1stc0Bg7c00C25s00Bg7c00C1stc0Bg7c00C",
     "25s00Bg7c00C25s00Bg7c00C1stc0Bg7c00C25s00Bg7c00C1stc0Bgkao0C1stc0Bg7c00C25s00Bg7c00C1stc0B",
     "g7c00C25s00Bg7c00C25s00Bg7c00C1stc0Bg7c00C25s00Bg7c00C1stc0Bgkao0C1stc0Bg7c00C25s00Bg7c00C",
     "1stc0Bg7c00C25s00Bg7c00C25s00Bg7c00C1stc0Bg7c00C25s00Bg7c00C1stc0Bgkao0C1stc0Bg7c00C25s00B",
     "g7c00C1stc0Bg7c00C25s00Bg7c00C25s00Bg7c00C1stc0Bg7c00C25s00Bg7c00C1stc0Bgkao0C1stc0Bg7c00C",
     "25s00Bg7c00C1stc0Bg7c00C25s00Bg7c00C25s00Bg7c00C1stc0Bg7c00C25s00Bg7c00C1stc0Bgkao0C1stc0B",
     "g7c00C25s00Bg7c00C1stc0Bg7c00C25s00Bg7c00C1stc0Bgkao0C1stc0Bg7c00C25s00Bg7c00C1stc0Bgkao0C",
     "1stc0Bg7c00C25s00B"],
    .steady ⟨"+01", 3600⟩⟩,
  ⟨"Africa/Ceuta", [⟨"LMT", (-1276)⟩, ⟨"WET", 0⟩, ⟨"WEST", 3600⟩, ⟨"CET", 3600⟩, ⟨"CEST", 7200⟩],
    ["u53if4B91vek0C7x3w0B2vt440C8sqs0Bssyk0C8n6s0B9px80C905g0Ba2yo0C902o0Bk69dc0C657w0B3ifxg0C",
     "3jp80Bva040C4qak0Be1ms0C7pp80Bcnms0C3afw0B2xi840D129us0E9d1c0D9d1c0E9d1c0D9d1c0E9d1c0D",
     "9d1c0E9d1c0D9d1c0E9q000D9d1c0E9d1c0D9d1c0E9d1c0D9d1c0E9d1c0D9d1c0E9d1c0D9d1c0E9d1c0D9q000E"],
    .seasonal ⟨"CET", 3600⟩ ⟨"CEST", 7200⟩ ⟨3, 5, 0, 7200⟩ ⟨10, 5, 0, 10800⟩⟩,
  ⟨"Africa/El_Aaiun", [⟨"LMT", (-3168)⟩, ⟨"-01", (-3600)⟩, ⟨"+01", 3600⟩, ⟨"+00", 0⟩],
    ["1bd3y74Bm2g0c0Dvek0C4qak0De1ms0C7pp80Dcnms0C3afw0Dfke5g0C4qak0De1ms0C45x80Dd2g40C51ek0D",
     "c8tg0C64ak0De1sc0C47uo0D1leo0C23xc0Dasw00C3lmo0D1qyo0C40g00D7x6o0C4mo00D1stc0C4deo0D7x6o0C",
     "3ylc0D1stc0C51hc0D7x6o0C3lmo0D1stc0C5reo0D7k800C2vpc0D25s00C64dc0D7k800C2iqo0D1stc0Cgkao0D",
     "1stc0Cg7c00D25s00Cg7c00D1stc0Cg7c00D25s00Cg7c00D1stc0Cgkao0D1stc0Cg7c00D25s00Cg7c00D1stc0C",
     "gkao0D1stc0Cg7c00D25s00Cg7c00D1stc0Cg7c00D25s00Cg7c00D1stc0Cgkao0D1stc0Cg7c00D25s00Cg7c00D",
     "1stc0Cg7c00D25s00Cg7c00D25s00Cg7c00D1stc0Cg7c00D25s00Cg7c00D1stc0Cgkao0D1stc0Cg7c00D25s00C",
     "g7c00D1stc0Cg7c00D25s00Cg7c00D25s00Cg7c00D1stc0Cg7c00D25s00Cg7c00D1stc0Cgkao0D1stc0Cg7c00D",
     "25s00Cg7c00D1stc0Cg7c00D25s00Cg7c00D25s00Cg7c00D1stc0Cg7c00D25s00Cg7c00D1stc0Cgkao0D1stc0C",
     "g7c00D25s00Cg7c00D1stc0Cg7c00D25s00Cg7c00D25s00Cg7c00D1stc0Cg7c00D25s00Cg7c00D1stc0Cgkao0D",
     "1stc0Cg7c00D25s00Cg7c00D1stc0Cg7c00D25s00Cg7c00D25s00Cg7c00D1stc0Cg7c00D25s00Cg7c00D1stc0C",
     "gkao0D1stc0Cg7c00D25s00Cg7c00D1stc0Cg7c00D25s00Cg7c00D25s00Cg7c00D1stc0Cg7c00D25s00Cg7c00D",
     "1stc0Cgkao0D1stc0Cg7c00D25s00Cg7c00D1stc0Cg7c00D25s00Cg7c00D1stc0Cgkao0D1stc0Cg7c00D25s00C",
     "g7c00D1stc0Cgkao0D1stc0Cg7c00D25s00C"],
    .steady ⟨"+01", 3600⟩⟩,
  ⟨"Africa/Johannesburg", [⟨"LMT", 6720⟩, ⟨"SAST", 5400⟩, ⟨"SAST", 10800⟩, ⟨"SAST", 7200⟩],
    ["phyp8gB5rpt0oDkn7o60C9cyk0D9d440C9cyk0D"],
    .steady ⟨"SAST", 7200⟩⟩,
  ⟨"Africa/Juba", [⟨"LMT", 7588⟩, ⟨"CAST", 10800⟩, ⟨"CAT", 7200⟩, ⟨"EAT", 10800⟩],
    ["19sq38cCkixuysB8l6k0Ca4w40B8n180Ca6qs0B8n180Ca31g0B8ovw0Ca16s0B8qqk0C9zc40B8sl80C9xhg0B",
     "8wak0C9ts40B8y580Ca4w40B8n180Ca31g0B8ovw0Ca16s0B8sl80C9xhg0B8ufw0C9vms0B8wak0C9ts40B8y580C",
     "a4w40B8ovw0Ca16s0B8qqk0C7frw40Dazg180C"],
    .steady ⟨"CAT", 7200⟩⟩,
  ⟨"Africa/Khartoum", [⟨"LMT", 7808⟩, ⟨"CAST", 10800⟩, ⟨"CAT", 7200⟩, ⟨"EAT", 10800⟩],
    ["19sq328Ckixv4wB8l6k0Ca4w40B8n180Ca6qs0B8n180Ca31g0B8ovw0Ca16s0B8qqk0C9zc40B8sl80C9xhg0B",
     "8wak0C9ts40B8y580Ca4w40B8n180Ca31g0B8ovw0Ca16s0B8sl80C9xhg0B8ufw0C9vms0B8wak0C9ts40B8y580C",
     "a4w40B8ovw0Ca16s0B8qqk0C7frw40D9ac180C"],
    .steady ⟨"CAT", 7200⟩⟩,
  ⟨"Africa/Lagos", [⟨"LMT", 815⟩, ⟨"GMT", 0⟩, ⟨"+0030", 1800⟩, ⟨"WAT", 3600⟩],
    ["whk8ghB1kdnanA2ve7ddC2yfgknD"],
    .steady ⟨"WAT", 3600⟩⟩,
  ⟨"Africa/Maputo", [⟨"LMT", 7818⟩, ⟨"CAT", 7200⟩],
    ["ybegdyB"],
    .steady ⟨"CAT", 7200⟩⟩,
  ⟨"Africa/Monrovia", [⟨"LMT", (-2588)⟩, ⟨"MMT", (-2588)⟩, ⟨"MMT", (-2670)⟩, ⟨"GMT", 0⟩],
    ["k85kf0Bje5c00Crl202aD"],
    .steady ⟨"GMT", 0⟩⟩,
  ⟨"Africa/Nairobi", [⟨"LMT", 8836⟩, ⟨"+0230", 9000⟩, ⟨"EAT", 10800⟩, ⟨"+0245", 9900⟩],
    ["xysq9oBaiwqjgCsg1a0B3nbte0D2wu1z0C"],
    .steady ⟨"EAT", 10800⟩⟩,
  ⟨"Africa/Ndjamena", [⟨"LMT", 3612⟩, ⟨"WAT", 3600⟩, ⟨"WAST", 7200⟩],
    ["zvqbmsBzdk5ccC7iak0B"],
    .steady ⟨"WAT", 3600⟩⟩,
  ⟨"Africa/Sao_Tome", [⟨"LMT", 1616⟩, ⟨"LMT", (-2205)⟩, ⟨"GMT", 0⟩, ⟨"WAT", 3600⟩],
    ["l9pbu8Bem12kwC1jbm840Dirxc0C"],
    .steady ⟨"GMT", 0⟩⟩,
  ⟨"Africa/Tripoli", [⟨"LMT", 3164⟩, ⟨"CEST", 7200⟩, ⟨"CET", 3600⟩, ⟨"EET", 7200⟩],
    ["1421fz8Cgl6ajwB422c0Cxado0B4bbo0Cwrpg0B4s580C1kdpg0Dc05bw0C4mqs0B9et80C9d440B9et80C9eys0B",
     "9et80C9mdg0B95jw0C9io40B9cyk0C99es0B9et80C9eys0B9et80C9d440B9et80Cb2840D3cf3w0C9kis0B9et80D",
     "7vqyw0C75eo0Basw00D"],
    .steady ⟨"EET", 7200⟩⟩,
  ⟨"Africa/Tunis", [⟨"LMT", 2444⟩, ⟨"PMT", 561⟩, ⟨"CEST", 7200⟩, ⟨"CET", 3600⟩],
    ["jw44j8Bfke44bDenxevlCb5uo0D53c00Cu8w00D7x9g0Cc8w80D7k800Cz3w0Dew40C8bx80D9d440C9nx00D925o0C",
     "8l100Dgi3440C7k800Db9k00C7vc00D51mw00C5ytc0D9d1c0C9d1c0Db9k00C7thc0D7m0tc0C7tk40D93us0C",
     "b5uo0D7k800Cb5uo0D7x6o0Casw00D"],
    .steady ⟨"CET", 3600⟩⟩,
  ⟨"Africa/Windhoek", [⟨"LMT", 4104⟩, ⟨"+0130", 5400⟩, ⟨"SAST", 7200⟩, ⟨"SAST", 10800⟩,
      ⟨"CAT", 7200⟩, ⟨"WAT", 3600⟩],
    ["phyr94B5rpr00Ckn7o60D9cyk0Coj2nw0E235k00F8lho0East80F7x9g0Eb5rw0F7kas0Eb5rw0F7x9g0East80F",
     "7x9g0East80F7x9g0East80F7x9g0East80F7x9g0Eb5rw0F7kas0Eb5rw0F7x9g0East80F7x9g0East80F7x9g0E",
     "ast80F7x9g0East80F7x9g0Eb5rw0F7x9g0East80F7x9g0East80F7x9g0East80F7x9g0East80F7x9g0Eb5rw0F",
     "7kas0Eb5rw0F7x9g0East80F7x9g0East80F7x9g0East80F7x9g0E2m7o0E"],
    .steady ⟨"CAT", 7200⟩⟩]

end Worksheet.Zones
