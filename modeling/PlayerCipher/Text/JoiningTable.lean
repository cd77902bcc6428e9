import PlayerCipher.Text.Table

/-! Joining of letters in cursive scripts. Rows are in hexadecimal. -/

namespace PlayerCipher.Text.JoiningTable

/-- Ranges of characters and a number for what they join: 1 both neighbours, 2 the next
character, 3 the one before, 4 letters over which their neighbours join. -/
def joinings : List (List Nat) := Table.rows
  "620 620 1,622 625 3,626 626 1,627 627 3,628 628 1,629 629 3,62A 62E 1,62F 632 3,633 63F 1,
  641 647 1,648 648 3,649 64A 1,66E 66F 1,671 673 3,675 677 3,678 687 1,688 699 3,69A 6BF 1,
  6C0 6C0 3,6C1 6C2 1,6C3 6CB 3,6CC 6CC 1,6CD 6CD 3,6CE 6CE 1,6CF 6CF 3,6D0 6D1 1,6D2 6D3 3,
  6D5 6D5 3,6EE 6EF 3,6FA 6FC 1,6FF 6FF 1,710 710 3,712 714 1,715 719 3,71A 71D 1,71E 71E 3,
  71F 727 1,728 728 3,729 729 1,72A 72A 3,72B 72B 1,72C 72C 3,72D 72E 1,72F 72F 3,74D 74D 3,
  74E 758 1,759 75B 3,75C 76A 1,76B 76C 3,76D 770 1,771 771 3,772 772 1,773 774 3,775 777 1,
  778 779 3,77A 77F 1,7CA 7EA 1,840 840 3,841 845 1,846 847 3,848 848 1,849 849 3,84A 853 1,
  854 854 3,855 855 1,856 858 3,860 860 1,862 865 1,867 867 3,868 868 1,869 86A 3,870 882 3,
  886 886 1,889 88D 1,88E 88E 3,88F 88F 1,8A0 8A9 1,8AA 8AC 3,8AE 8AE 3,8AF 8B0 1,8B1 8B2 3,
  8B3 8B8 1,8B9 8B9 3,8BA 8C8 1,CBF CBF 4,CC6 CC6 4,1807 1807 1,1820 1878 1,1887 18A8 1,
  18AA 18AA 1,A840 A871 1,A872 A872 2,10AC0 10AC4 1,10AC5 10AC5 3,10AC7 10AC7 3,10AC9 10ACA 3,
  10ACD 10ACD 2,10ACE 10AD2 3,10AD3 10AD6 1,10AD7 10AD7 2,10AD8 10ADC 1,10ADD 10ADD 3,
  10ADE 10AE0 1,10AE1 10AE1 3,10AE4 10AE4 3,10AEB 10AEE 1,10AEF 10AEF 3,10B80 10B80 1,
  10B81 10B81 3,10B82 10B82 1,10B83 10B85 3,10B86 10B88 1,10B89 10B89 3,10B8A 10B8B 1,
  10B8C 10B8C 3,10B8D 10B8D 1,10B8E 10B8F 3,10B90 10B90 1,10B91 10B91 3,10BA9 10BAC 3,
  10BAD 10BAE 1,10D00 10D00 2,10D01 10D21 1,10D22 10D22 3,10D23 10D23 1,10EC2 10EC2 3,
  10EC3 10EC4 1,10EC6 10EC7 1,10F30 10F32 1,10F33 10F33 3,10F34 10F44 1,10F51 10F53 1,
  10F54 10F54 3,10F70 10F73 1,10F74 10F75 3,10F76 10F81 1,10FB0 10FB0 1,10FB2 10FB3 1,
  10FB4 10FB6 3,10FB8 10FB8 1,10FB9 10FBA 3,10FBB 10FBC 1,10FBD 10FBD 3,10FBE 10FBF 1,
  10FC1 10FC1 1,10FC2 10FC3 3,10FC4 10FC4 1,10FC9 10FC9 3,10FCA 10FCA 1,10FCB 10FCB 2,
  11A07 11A08 4,11C3F 11C3F 4,1E900 1E943 1,1E94B 1E94B 4"

end PlayerCipher.Text.JoiningTable
